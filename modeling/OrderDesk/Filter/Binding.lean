import OrderDesk.Binding
import OrderDesk.Filter.Request

/-!
# Reading filter requests

An exact filter lists its values or gives a single one. Sort keys come as an object from fields
to directions or as a list of keys. Each part may be `null` or left out.
-/

namespace OrderDesk.Filter

open Json (Draft Room)
open Binding (Bound Binder)

/-! ### Directions -/

/-- Why a value is no sort direction. -/
inductive DirectionFault where
  | number (n : Json.Number)
  | text (s : String)
  | other (value : Json)

def DirectionFault.message : DirectionFault → String
  | number n => "sort direction must be 1 or -1, got " ++ n.write
  | text s => "sort direction must be 'asc' or 'desc', got '" ++ s ++ "'"
  | other v => "invalid sort direction: " ++ v.write

/-- The direction that a number or a word stands for; words are read without regard to case. -/
def Direction.ofJson : Json → Except DirectionFault Direction
  | .number n =>
    match n.toInt? with
    | some 1 => .ok .ascending
    | some (-1) => .ok .descending
    | _ => .error (.number n)
  | .string s =>
    let word := s.map Char.toLower
    if word ∈ ["asc", "ascending", "1"] then .ok .ascending
    else if word ∈ ["desc", "descending", "-1"] then .ok .descending
    else .error (.text s)
  | v => .error (.other v)

/-! ### Sort keys -/

/-- A listed sort key: an object with both members, or an array of the two. -/
def sortKey? : Draft → Option SortKey
  | .object members _ => do
    key? (← Draft.soleMember? "field" members) (← Draft.soleMember? "direction" members)
  | .array [field, direction] _ => key? field direction
  | _ => none
where
  key? : Draft → Draft → Option SortKey
    | .string field, d =>
      match (d.value? none).map Direction.ofJson with
      | some (.ok direction) => some ⟨field, direction⟩
      | _ => none
    | _, _ => none

/-- The keys of a sort object. -/
def keyedSort (members : Fields Json) : Bound (List SortKey) :=
  members.mapM fun (field, v) =>
    match Direction.ofJson v with
    | .ok direction => .ok ⟨field, direction⟩
    | .error fault => Binding.fail (.refused fault.message)

/-- Refuses the first key on a field that an earlier key names. -/
def distinctKeys : List String → List SortKey → Bound Unit
  | _, [] => .ok ()
  | seen, key :: keys =>
    if key.field ∈ seen then
      Binding.fail (.refused ("sort field '" ++ key.field ++ "' listed more than once"))
    else distinctKeys (key.field :: seen) keys

/-- The sort keys of either form. -/
def sortKeys : Binder (List SortKey)
  | _, .null => .ok []
  | room, d =>
    match d.value? room with
    | none => .error .malformed
    | some v => do
      let keys ← match d, v with
        | .object _ _, .object members => keyedSort members
        | .array items _, _ =>
          match items.mapM sortKey? with
          | some keys => .ok keys
          | none => Binding.fail (.noVariant "RawSort")
        | _, _ => Binding.fail (.noVariant "RawSort")
      distinctKeys [] keys
      return keys

/-! ### Requests -/

/-- The values of an exact filter: those listed, each once, or the single one. -/
def filterValues : Json → List Json
  | .array items => Json.distinct items
  | v => [v]

def exactFilters : Binder (Fields (List Json)) :=
  Binding.orDefault fun room d =>
    (Binding.map Binding.value room d).map fun members =>
      members.map fun entry => (entry.1, filterValues entry.2)

/-- The parts of a request, in the order of their positions. -/
def requestParts : List (Binding.Part Request) :=
  [.of "exact_filters" exactFilters (fun exact r => { r with exact }) (some "exactFilters"),
   .of "match" (Binding.orDefault (Binding.map Binding.value))
     (fun matching r => { r with matching }),
   .of "fields" (Binding.orDefault (Binding.list Binding.string))
     (fun fields r => { r with fields }),
   .of "sort" sortKeys (fun sort r => { r with sort })]

def Request.bind : Binder Request :=
  Binding.record "CanonicalFilterRequest" requestParts .empty

end OrderDesk.Filter
