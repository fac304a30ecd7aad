/-!
# The two backends

Orders are kept in a document store and in a search index.
-/

namespace OrderDesk

inductive Backend where
  | store
  | index
deriving DecidableEq, Repr

namespace Backend

def name : Backend → String
  | store => "store"
  | index => "index"

def description : Backend → String
  | store => "document store"
  | index => "search index"

/-- A name that no backend has. -/
structure Unknown where
  name : String
deriving DecidableEq

def Unknown.message (fault : Unknown) : String :=
  "unknown backend '" ++ fault.name ++ "', expected 'store' or 'index'"

/-- The backend with a name, its case ignored. Each has a short name and two further ones. -/
def ofName (name : String) : Except Unknown Backend :=
  let name := name.map Char.toLower
  if name ∈ ["store", "mongo", "mongodb"] then .ok store
  else if name ∈ ["index", "elastic", "elasticsearch"] then .ok index
  else .error ⟨name⟩

end Backend

end OrderDesk
