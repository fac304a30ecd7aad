import OrderDesk.Json.Basic

/-!
# Filter requests

What a caller wants filtered, matched, projected and sorted, said without regard to a backend.
Exact filters hold if a field equals one of the listed values, and all of them have to hold. An
empty request selects everything.
-/

namespace OrderDesk.Filter

inductive Direction where
  | ascending
  | descending
deriving DecidableEq, Repr

/-- The keyword of a direction. -/
def Direction.keyword : Direction → String
  | ascending => "asc"
  | descending => "desc"

structure SortKey where
  field : String
  direction : Direction
deriving DecidableEq, Repr

structure Request where
  /-- The values that each field may equal. -/
  exact : Fields (List Json) := []
  /-- The value that each field has to match. -/
  matching : Fields Json := []
  /-- The fields to keep; all of them if none is named. -/
  fields : List String := []
  /-- The sort keys, the deciding one first. -/
  sort : List SortKey := []

namespace Request

/-- A request without parts selects everything. -/
def empty : Request := {}

instance : Inhabited Request := ⟨empty⟩

def isEmpty (r : Request) : Bool :=
  r.exact.isEmpty && r.matching.isEmpty && r.fields.isEmpty && r.sort.isEmpty

/-- Adds the values that equal none before them. -/
def addValues (kept values : List Json) : List Json :=
  values.foldl (fun kept value => if value.isIn kept then kept else kept ++ [value]) kept

/-- Lets a field equal further values. -/
def requireOneOf (r : Request) (field : String) (values : List Json) : Request :=
  { r with
    exact := Fields.set r.exact field (addValues ((Fields.get? r.exact field).getD []) values) }

/-- Makes a field match a value, in place of what it had to match before. -/
def requireMatch (r : Request) (field : String) (value : Json) : Request :=
  { r with matching := Fields.set r.matching field value }

/-- Keeps further fields. -/
def project (r : Request) (fields : List String) : Request :=
  { r with
    fields := fields.foldl (fun kept f => if f ∈ kept then kept else kept ++ [f]) r.fields }

/-- Adds a last sort key, in place of any on the same field. -/
def sortBy (r : Request) (key : SortKey) : Request :=
  { r with sort := r.sort.filter (·.field ≠ key.field) ++ [key] }

/-- Equality of requests: sections in the same order, with equal values. -/
def same (a b : Request) : Bool :=
  sameSection (fun v w => Json.sameItems v w) a.exact b.exact &&
    sameSection Json.same a.matching b.matching && a.fields = b.fields && a.sort = b.sort
where
  /-- Equality of two sections as tables: the order of names does not matter. -/
  sameSection {α : Type} (eq : α → α → Bool) (a b : Fields α) : Bool :=
    a.length = b.length && a.all fun entry =>
      match Fields.get? b entry.1 with
      | some other => eq entry.2 other
      | none => false

/-- The JSON form of a request. -/
def toJson (r : Request) : Json :=
  .object [
    ("exact_filters", .object (r.exact.map fun entry => (entry.1, .array entry.2))),
    ("match", .object r.matching),
    ("fields", .array (r.fields.map .string)),
    ("sort", .array (r.sort.map fun key =>
      .object [("field", .string key.field), ("direction", .string key.direction.keyword)]))]

end Request

end OrderDesk.Filter
