import OrderDesk.FieldPath
import OrderDesk.Settings.Basic
import OrderDesk.Text.Basic

/-!
# Settings from variables

A variable replaces one setting. They are looked at one after the other, so of several that cannot
be used the first one is reported.
-/

namespace OrderDesk.Settings

/-- What looks up the text of a variable. -/
abbrev Lookup := String → Option String

/-- The name of the variable for a setting. -/
def variableName (setting : String) : String := "ORDER_API_" ++ setting

/-- The parts of a text between commas, without blanks at their ends and without empty ones. -/
def listed (text : String) : List String :=
  ((FieldPath.split ',' text.toList).map fun part => String.ofList (Text.trimmed part)).filter
    (· ≠ "")

def readNumber (bound : Nat) (text : String) : Except VariableFault Nat :=
  (Text.readNatural bound (Text.trimmed text.toList)).mapError .number

/-- A flag in one of four spellings each, their case ignored; a blank text says no. -/
def readFlag (text : String) : Except VariableFault Bool :=
  let word := (Text.trim text).map Char.toLower
  if word ∈ ["1", "true", "yes", "on"] then .ok true
  else if word ∈ ["0", "false", "no", "off", ""] then .ok false
  else .error (.flag word)

/-- A variable: the setting in its name, and what becomes of settings with its text. -/
structure Override where
  setting : String
  apply : String → Settings → Except VariableFault Settings

/-- A variable whose text is used as it is. -/
def Override.ofText (setting : String) (put : String → Settings → Settings) : Override where
  setting
  apply text s := .ok (put text s)

/-- A variable whose text has to be read first. -/
def Override.reading {α : Type} (setting : String) (read : String → Except VariableFault α)
    (put : α → Settings → Settings) : Override where
  setting
  apply text s := (read text).map (put · s)

def allOverrides : List Override := [
  .ofText "STORE_URI" fun connection s => { s with store.connection := connection },
  .ofText "STORE_DATABASE" fun database s => { s with store.database := database },
  .ofText "STORE_COLLECTION" fun collection s => { s with store.collection := collection },
  .ofText "INDEX_ADDRESSES" fun text s => { s with index.addresses := listed text },
  .ofText "INDEX_NAME" fun name s => { s with index.name := name },
  .ofText "HOST" fun host s => { s with server.host := host },
  .reading "PORT" (readNumber 65535) fun port s => { s with server.port := .ofNat port },
  .reading "BACKEND_TIMEOUT_SECS" (readNumber (0x10000000000000000 - 1)) fun n s =>
    { s with timeout := .ofNat n },
  .reading "IN_MEMORY" readFlag fun inMemory s => { s with inMemory }]

/-- Replaces the settings for which there is a variable. -/
def overridden (lookup : Lookup) (s : Settings) : Except SettingsFault Settings :=
  allOverrides.foldlM (fun s override =>
    let name := variableName override.setting
    match lookup name with
    | none => .ok s
    | some text => (override.apply text s).mapError (.badVariable name)) s

end OrderDesk.Settings
