import OrderDesk.Json.Basic
import OrderDesk.Text.Basic

/-!
# Settings

Where the server listens, where orders are kept, and how long a backend may take. Everything has
a value of its own when nothing is said. To be valid, a backend has to be given some time, and
unless everything is kept in memory, the backends have to be named as well.
-/

namespace OrderDesk

/-- Where the server listens. -/
structure ServerSettings where
  host : String := "localhost"
  port : UInt16 := 8011
deriving DecidableEq

/-- Where the document store is. -/
structure StoreSettings where
  connection : String := "mongodb://localhost:27017"
  database : String := "ProjectDB"
  collection : String := "Orders"
deriving DecidableEq

/-- Where the search index is. -/
structure IndexSettings where
  addresses : List String := ["http://localhost:9200"]
  name : String := "order_duplicate_v01"
  /-- Whether writes wait until they can be found. -/
  refresh : Bool := true
deriving DecidableEq

structure Settings where
  server : ServerSettings := {}
  store : StoreSettings := {}
  index : IndexSettings := {}
  /-- How many seconds a backend may take. -/
  timeout : UInt64 := 20
  /-- Whether nothing is kept beyond the end of the program. -/
  inMemory : Bool := false
deriving DecidableEq

namespace Settings

instance : Inhabited Settings := ⟨{}⟩

/-- The host and the port, as the server is told. -/
def address (s : Settings) : String := s.server.host ++ ":" ++ toString s.server.port.toNat

/-- The limit for a reply of a backend, in milliseconds. -/
def limit (s : Settings) : Nat := 1000 * s.timeout.toNat

def toJson (s : Settings) : Json :=
  .object [
    ("server", .object [
      ("host", .string s.server.host),
      ("port", .ofNat s.server.port.toNat)]),
    ("store", .object [
      ("connection", .string s.store.connection),
      ("database", .string s.store.database),
      ("collection", .string s.store.collection)]),
    ("index", .object [
      ("addresses", .array (s.index.addresses.map .string)),
      ("index_name", .string s.index.name),
      ("refresh", .boolean s.index.refresh)]),
    ("backend_timeout_secs", .ofNat s.timeout.toNat),
    ("in_memory", .boolean s.inMemory)]

end Settings

/-! ### Faults -/

/-- Why the text of a variable cannot be used. -/
inductive VariableFault where
  | number (fault : Text.IntegerFault)
  | flag (text : String)
deriving DecidableEq

def VariableFault.message : VariableFault → String
  | number fault => fault.message
  | flag text => "'" ++ text ++ "' is not a boolean"

/-- Why settings cannot be used as they are. -/
inductive SettingsGap where
  | noTime
  /-- A text that has to say something says nothing. -/
  | blank (field : String)
  | noAddress
deriving DecidableEq

def SettingsGap.message : SettingsGap → String
  | noTime => "backend_timeout_secs must be greater than zero"
  | blank field => field ++ " must not be empty"
  | noAddress => "index.addresses must list at least one address"

/-- Why there are no settings to work with. -/
inductive SettingsFault where
  | unreadable (path reason : String)
  /-- The text is no YAML, or says something of the wrong shape. -/
  | malformed
  | unknownEnvironment (name : String)
  | badVariable (name : String) (fault : VariableFault)
  | invalid (gap : SettingsGap)
deriving DecidableEq

def SettingsFault.message : SettingsFault → String
  | unreadable path reason => "failed to read config file " ++ path ++ ": " ++ reason
  | malformed => "failed to parse config"
  | unknownEnvironment name =>
    "environment '" ++ name ++ "' is not configured and no 'test' fallback exists"
  | badVariable name fault => "invalid value for " ++ name ++ ": " ++ fault.message
  | invalid gap => "invalid configuration: " ++ gap.message

/-! ### Validity -/

namespace Settings

/-- The texts that have to say something, with the names of their settings. -/
def required (s : Settings) : List (String × String) :=
  [("store.connection", s.store.connection), ("store.database", s.store.database),
   ("store.collection", s.store.collection), ("index.index_name", s.index.name)]

/-- Passes settings that can be used; otherwise the first gap is reported. -/
def check (s : Settings) : Except SettingsGap Unit :=
  if s.timeout = 0 then .error .noTime
  else if s.inMemory then .ok ()
  else
    match s.required.find? fun (_, text) => (Text.trimmed text.toList).isEmpty with
    | some (field, _) => .error (.blank field)
    | none => if s.index.addresses.isEmpty then .error .noAddress else .ok ()

end Settings

end OrderDesk
