import OrderDesk.Cluster.Calls
import OrderDesk.Database.Address
import OrderDesk.Database.Calls
import OrderDesk.Documents.Collection
import OrderDesk.Search.Index
import OrderDesk.Server.Setup
import OrderDesk.Settings.Basic
import OrderDesk.Settings.Overrides
import OrderDesk.Settings.Written

/-!
# Launching a server

The settings come from a file, if there is one, and from variables. With them the backends are
set up, and the server listens. A backend that cannot be reached yet is only noted; what can never
work ends the launch.
-/

namespace OrderDesk

/-! ### Events -/

/-- How much an event matters, and how much is written down. -/
inductive Level where
  | off
  | error
  | warning
  | info
deriving DecidableEq, Repr

namespace Level

def rank : Level → Nat
  | off => 0
  | error => 1
  | warning => 2
  | info => 3

/-- The level with a name, its case ignored. The finest levels show no more events than `info`,
and with nothing said only errors are shown. -/
def ofName? (name : String) : Option Level :=
  match name.map Char.toLower with
  | "off" => some off
  | "" | "error" => some error
  | "warn" => some warning
  | "info" | "debug" | "trace" => some info
  | _ => none

/-- Whether what matters this much is written down at a level. -/
def isShownAt (l threshold : Level) : Bool := l.rank ≤ threshold.rank

end Level

/-- What is noted during a launch. -/
inductive Event where
  | nothingPersisted
  | usingFallback
  | noStoreIndexes
  | noSearchIndex
  | backendsConfigured
  | listening
deriving DecidableEq, Repr

namespace Event

def level : Event → Level
  | nothingPersisted | usingFallback | noStoreIndexes | noSearchIndex => .warning
  | backendsConfigured | listening => .info

def message : Event → String
  | nothingPersisted => "running with in-memory backends, nothing is persisted"
  | usingFallback => "unknown environment, using fallback"
  | noStoreIndexes => "could not create store indexes"
  | noSearchIndex => "could not prepare search index"
  | backendsConfigured => "backends configured"
  | listening => "Server listening"

end Event

namespace Launch

/-- Why a launch came to nothing. -/
inductive Fault where
  | settings (fault : SettingsFault)
  /-- The address of the database cannot be used. -/
  | database (uri : String)
  | cluster (fault : Cluster.AddressFault)
  | missing (backend : Backend)
  | address (fault : Server.AddressFault)

def Fault.message : Fault → String
  | settings fault => fault.message
  | database uri => Database.connectMessage uri
  | cluster fault => fault.message
  | missing backend => Server.missingMessage backend
  | address fault => fault.message

/-- What a launch meets: variables, files, and the backends. -/
structure Surroundings where
  lookup : Settings.Lookup
  /-- The text of a file, or why it cannot be read. -/
  textOfFile : String → Except String String
  /-- What the database delivers. -/
  database : List Database.Delivery
  /-- What the nodes of a cluster deliver. -/
  node : Cluster.Request → Cluster.Delivery

/-- A step of a launch, which notes events. -/
abbrev Step := ExceptT Fault (StateM (List Event))

def note (event : Event) : Step Unit := modify (· ++ [event])

def orFail {α ε : Type} (fault : ε → Fault) (result : Except ε α) : Step α :=
  ExceptT.mk (pure (result.mapError fault))

/-! ### Settings -/

def textOf (w : Surroundings) (path : String) : Step String :=
  orFail (fun reason => .settings (.unreadable path reason)) (w.textOfFile path)

/-- The settings of an environment; that it has none of its own is noted. -/
def selected (es : Environments) (name : String) : Step Settings := do
  if (Fields.get? es name).isNone then note .usingFallback
  orFail .settings (es.select name)

/-- The settings before any variable replaces one. An environment is only selected in a file. -/
def writtenSettings (w : Surroundings) : Step Settings := do
  match w.lookup (Settings.variableName "CONFIG"), w.lookup (Settings.variableName "ENV") with
  | none, _ => return {}
  | some path, none => orFail .settings (Settings.ofText (← textOf w path))
  | some path, some name => do
    let es ← orFail .settings (Environments.ofText (← textOf w path))
    selected es name

/-- The settings to work with. -/
def settings (w : Surroundings) : Step Settings := do
  let s ← orFail .settings ((← writtenSettings w).overridden w.lookup)
  orFail (fun gap => .settings (.invalid gap)) s.check
  return s

/-! ### Backends -/

/-- Where the orders of a server are kept. -/
inductive Store where
  | memory (c : Documents.Collection)
  | database (place : Database.Place)

/-- Where the orders of a server are found. -/
inductive Index where
  | memory (i : Search.Index)
  | cluster (c : Cluster)

/-- The database of some settings. It is asked to make its indexes, which may fail. -/
def database (w : Surroundings) (s : StoreSettings) : Step Database.Place := do
  if !Database.canConnect s.connection then throw (.database s.connection)
  let place : Database.Place := ⟨s.database, s.collection⟩
  match (place.ensureIndexes.run { deliveries := w.database }).1 with
  | .ok () => return place
  | .error _ => do
    note .noStoreIndexes
    return place

/-- The cluster of some settings. It is asked to make its index, which may fail. -/
def cluster (w : Surroundings) (s : IndexSettings) : Step Cluster := do
  let c ← orFail .cluster (Cluster.ofAddresses s.addresses s.name)
  let c := { c with refresh := s.refresh }
  match (Dialogue.run (fun r (_ : Unit) => (w.node r, ())) c.ensureIndex.run ()).1 with
  | .ok () => return c
  | .error _ => do
    note .noSearchIndex
    return c

def backends (w : Surroundings) (s : Settings) : Step (Store × Index) := do
  if s.inMemory then
    note .nothingPersisted
    return (.memory [], .memory {})
  let place ← database w s.store
  let c ← cluster w s.index
  note .backendsConfigured
  return (.database place, .cluster c)

/-! ### The server -/

/-- A server that listens, with its host and port. -/
structure Launched where
  server : Server Store Index
  host : String
  port : Nat

def server (w : Surroundings) : Step Launched := do
  let s ← settings w
  let (store, index) ← backends w s
  let setup : Server.Setup Store Index := { store, index, limit := s.limit }
  let server ← orFail .missing setup.build
  let (host, port) ← orFail .address (Server.address s.address)
  note .listening
  return { server, host, port }

/-- Launches a server: what comes of it, and what was noted. -/
def run (w : Surroundings) : Except Fault Launched × List Event := (server w).run []

end Launch

end OrderDesk
