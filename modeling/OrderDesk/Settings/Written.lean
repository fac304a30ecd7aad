import OrderDesk.Fields
import OrderDesk.Settings.Basic
import OrderDesk.Yaml.Basic
import OrderDesk.Yaml.Reader

/-!
# Settings in YAML

A text holds the settings themselves, or those of several environments by their names. An
environment that is not there is replaced by the one for tests.
-/

namespace OrderDesk

def ServerSettings.ofYaml? : Yaml → Option ServerSettings :=
  Yaml.record? [
    .of "host" Yaml.text? fun host s => { s with host },
    .of "port" (Yaml.natural? 65535) fun port s => { s with port := .ofNat port }] {}

def StoreSettings.ofYaml? : Yaml → Option StoreSettings :=
  Yaml.record? [
    .of "connection" Yaml.text? fun connection s => { s with connection },
    .of "database" Yaml.text? fun database s => { s with database },
    .of "collection" Yaml.text? fun collection s => { s with collection }] {}

def IndexSettings.ofYaml? : Yaml → Option IndexSettings :=
  Yaml.record? [
    .of "addresses" (Yaml.list? Yaml.text?) fun addresses s => { s with addresses },
    .of "index_name" Yaml.text? fun name s => { s with name },
    .of "refresh" Yaml.flag? fun refresh s => { s with refresh }] {}

namespace Settings

def ofYaml? : Yaml → Option Settings :=
  Yaml.record? [
    .of "server" ServerSettings.ofYaml? fun server s => { s with server },
    .of "store" StoreSettings.ofYaml? fun store s => { s with store },
    .of "index" IndexSettings.ofYaml? fun index s => { s with index },
    .of "backend_timeout_secs" (Yaml.natural? (0x10000000000000000 - 1)) fun n s =>
      { s with timeout := .ofNat n },
    .of "in_memory" Yaml.flag? fun inMemory s => { s with inMemory }] {}

/-- Settings as YAML, with everything said. -/
def toYaml (s : Settings) : Yaml :=
  let text (t : String) : Yaml := .scalar false t
  let number (n : Nat) : Yaml := .scalar true (toString n)
  let flag (b : Bool) : Yaml := .scalar true (toString b)
  let record (entries : List (String × Yaml)) : Yaml :=
    .mapping (entries.map fun (key, value) => (.scalar true key, value))
  record [
    ("server", record [("host", text s.server.host), ("port", number s.server.port.toNat)]),
    ("store", record [
      ("connection", text s.store.connection),
      ("database", text s.store.database),
      ("collection", text s.store.collection)]),
    ("index", record [
      ("addresses", .sequence (s.index.addresses.map text)),
      ("index_name", text s.index.name),
      ("refresh", flag s.index.refresh)]),
    ("backend_timeout_secs", number s.timeout.toNat),
    ("in_memory", flag s.inMemory)]

/-- The settings that a text holds. -/
def ofText (text : String) : Except SettingsFault Settings :=
  match Yaml.parse? text >>= ofYaml? with
  | some s => .ok s
  | none => .error .malformed

def write (s : Settings) : String := s.toYaml.write

end Settings

/-! ### Environments -/

/-- The settings of several environments. -/
abbrev Environments := Fields Settings

namespace Environments

/-- The environments of a document, which has to name them. A name that is repeated stands for
what was said last. -/
def ofYaml? (v : Yaml) : Option Environments := do
  let environments : Yaml → Option Environments := fun v => do
    let entries ← v.entries?
    Fields.ofEntries <$> entries.mapM fun (name, value) => (Settings.ofYaml? value).map (name, ·)
  let part : Yaml.Part (Option Environments) := .of "environments" environments fun es _ => some es
  ← Yaml.record? [part] none v

def ofText (text : String) : Except SettingsFault Environments :=
  match Yaml.parse? text >>= ofYaml? with
  | some es => .ok es
  | none => .error .malformed

/-- The environment that takes the place of one that is not there. -/
def fallback : String := "test"

/-- The settings of an environment, or else those of the fallback. -/
def select (es : Environments) (name : String) : Except SettingsFault Settings :=
  match (Fields.get? es name).or (Fields.get? es fallback) with
  | some s => .ok s
  | none => .error (.unknownEnvironment name)

end Environments

end OrderDesk
