import OrderDesk.Json.Printer
import OrderDesk.Order.Written
import OrderDesk.Search.Body
import OrderDesk.Text.Words

/-!
# Search indexes

An index keeps the JSON form of orders under their identities, in the order of first arrival. A
search selects and sorts them, counts all that match, and returns the first of them. A path
through an array leads into each of its items. Text matches if it shares a word.
-/

namespace OrderDesk.Search

/-! ### Paths -/

mutual

/-- The values one segment below a value. -/
def below (segment : String) : Json → List Json
  | .object members => (Fields.get? members segment).toList
  | .array items => belowItems segment items
  | _ => []

def belowItems (segment : String) : List Json → List Json
  | [] => []
  | item :: items => below segment item ++ belowItems segment items

end

/-- The items of an array, and any other value itself. -/
def unfolded : Json → List Json
  | .array items => items
  | v => [v]

/-- The values to which a path leads. -/
def reached (source : Json) (path : String) : List Json :=
  ((FieldPath.segments path).foldl (fun values segment => values.flatMap (below segment))
    [source]).flatMap unfolded

/-! ### Selection -/

/-- Equality as the index sees it: numbers by value. -/
def equal (a b : Json) : Bool :=
  match a.asBinary64?, b.asBinary64? with
  | some x, some y => x.eqv y
  | _, _ => a.same b

/-- Whether a value matches loosely: a text by a shared word, all else by equality. -/
def matchesLoosely : Json → Json → Bool
  | .string text, .string wanted => (Text.terms wanted).any (· ∈ Text.terms text)
  | .string text, wanted => Text.lowercase wanted.write.toList ∈ Text.terms text
  | value, wanted => equal value wanted

/-- The field that a clause is about, and what it says of it. -/
def soleField? : Json → Option (String × Json)
  | .object (member :: _) => some member
  | _ => none

/-- What is said of a field, directly or under a name of its own. -/
def parameter (name : String) (said : Json) : Json := (said.get? name).getD said

/-- Whether the clause of a kind holds of a source. -/
def holds (source : Json) (kind : String) (field : String) (said : Json) : Bool :=
  let values := reached source field
  if kind = "term" then values.any (equal · (parameter "value" said))
  else if kind = "terms" then
    let set := said.asArray?.getD []
    values.any fun value => set.any (equal value)
  else if kind = "match" then values.any (matchesLoosely · (parameter "query" said))
  else false

mutual

/-- Whether a query selects a source: all of its clauses do. -/
def selects (source : Json) : Json → Bool
  | .object members => selectsMembers source members
  | _ => false

def selectsMembers (source : Json) : List (String × Json) → Bool
  | [] => true
  | member :: members => selectsMember source member && selectsMembers source members

def selectsMember (source : Json) : String × Json → Bool
  | (kind, said) =>
    if kind = "match_all" then true
    else if kind = "bool" then selectsRequired source said
    else
      match soleField? said with
      | some (field, said) => holds source kind field said
      | none => false

/-- Whether all clauses that are required hold. -/
def selectsRequired (source : Json) : Json → Bool
  | .object groups => selectsGroups source groups
  | _ => true

def selectsGroups (source : Json) : List (String × Json) → Bool
  | [] => true
  | group :: groups => selectsGroup source group && selectsGroups source groups

def selectsGroup (source : Json) : String × Json → Bool
  | (name, clauses) => !(name = "must" || name = "filter") || selectsClauses source clauses

/-- Whether the clauses of a group hold, which may also be a single one. -/
def selectsClauses (source : Json) : Json → Bool
  | .array items => selectsAll source items
  | .object members => selectsMembers source members
  | _ => true

def selectsAll (source : Json) : List Json → Bool
  | [] => true
  | item :: items => selects source item && selectsAll source items

end

/-! ### Order -/

/-- A sort key as a body spells it. -/
structure BodyKey where
  field : String
  descending : Bool

def bodyKey? : Json → Option BodyKey
  | .string field => some ⟨field, false⟩
  | .object ((field, said) :: _) =>
    some ⟨field, (parameter "order" said).asString? = some "desc"⟩
  | _ => none

/-- Compares two values: numbers, texts or booleans; all else counts as equal. -/
def compareValues : Json → Json → Ordering
  | .number m, .number n => (m.toBinary64.compare? n.toBinary64).getD .eq
  | .string s, .string t => compare s t
  | .boolean p, .boolean q => compare p q
  | _, _ => .eq

/-- Compares two sources under one key. A missing value comes last, whatever the direction. -/
def compareUnder (key : BodyKey) (a b : Json) : Ordering :=
  match reached a key.field, reached b key.field with
  | [], [] => .eq
  | [], _ => .gt
  | _, [] => .lt
  | v :: _, w :: _ =>
    if key.descending then (compareValues v w).swap else compareValues v w

/-- Compares two sources under keys; the first one that tells them apart decides. -/
def compareUnderAll (keys : List BodyKey) (a b : Json) : Ordering :=
  keys.foldr (fun key rest => (compareUnder key a b).then rest) .eq

/-! ### Projection -/

/-- The members of a source that lie at the top of the paths to keep. -/
def project (fields : List String) (source : Json) : Json :=
  match source with
  | .object members =>
    .object (fields.foldl (fun kept field =>
      let top := FieldPath.top field
      match Fields.get? members top with
      | some v => Fields.set kept top v
      | none => kept) [])
  | v => v

/-! ### Indexes -/

/-- Sources under identities. -/
structure Index where
  name : String := "orders"
  sources : Fields Json := []

namespace Body

def query (b : Body) : Json :=
  (Fields.get? b.members "query").getD (single "match_all" (.object []))

/-- The sort keys, the deciding one first. -/
def sort (b : Body) : List BodyKey :=
  match Fields.get? b.members "sort" with
  | some (.array entries) => entries.filterMap bodyKey?
  | _ => []

/-- The number of hits asked for, if it is limited. -/
def size? (b : Body) : Option Nat := (Fields.get? b.members "size").bind Json.asNat?

/-- The paths to keep; `none` keeps all. -/
def kept? (b : Body) : Option (List String) :=
  match Fields.get? b.members "_source" with
  | some (.array fields) => some (fields.filterMap Json.asString?)
  | _ => none

end Body

namespace Index

def ids (i : Index) : List String := Fields.names i.sources

def contains (i : Index) (id : String) : Bool := Fields.has i.sources id

/-- Indexes an order in place of what its identity stood for. -/
def put (i : Index) (o : Order) : Index :=
  { i with sources := Fields.set i.sources o.id o.toJson }

def discard (i : Index) (id : String) : Index :=
  { i with sources := Fields.without i.sources id }

/-- Everything that a body selects, sorted. -/
def found (i : Index) (b : Body) : Fields Json :=
  (i.sources.filter fun entry => selects entry.2 b.query).mergeSort fun x y =>
    compareUnderAll b.sort x.2 y.2 != .gt

/-- The response that lists hits out of a number of matches. -/
def response (total : Nat) (hits : List Json) : Json :=
  .object [
    ("took", .ofNat 0),
    ("timed_out", .boolean false),
    ("hits", .object [
      ("total", .object [("value", .ofNat total), ("relation", .string "eq")]),
      ("max_score", .null),
      ("hits", .array hits)])]

def hit (i : Index) (fields? : Option (List String)) (entry : String × Json) : Json :=
  let source := match fields? with
    | some fields => project fields entry.2
    | none => entry.2
  .object [("_index", .string i.name), ("_id", .string entry.1), ("_score", .null),
    ("_source", source)]

/-- The response to a search. -/
def search (i : Index) (b : Body) : Json :=
  let found := i.found b
  let shown := match b.size? with
    | some size => found.take size
    | none => found
  response found.length (shown.map (i.hit b.kept?))

end Index

end OrderDesk.Search
