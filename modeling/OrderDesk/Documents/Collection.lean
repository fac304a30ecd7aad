import OrderDesk.Documents.Query
import OrderDesk.Documents.Record
import OrderDesk.Setback

/-!
# Collections of documents

A collection keeps documents in the order of their arrival, no two with the same identity. A
query selects, sorts and projects them. A path through an array leads into each of its items, and
a condition holds if it holds of any value that is reached.
-/

namespace OrderDesk.Documents

/-! ### Paths -/

mutual

/-- The values one segment below a value. -/
def below (segment : String) : Bson → List Bson
  | .document entries => (Fields.get? entries segment).toList
  | .array items => belowItems segment items
  | _ => []

def belowItems (segment : String) : List Bson → List Bson
  | [] => []
  | item :: items => below segment item ++ belowItems segment items

end

/-- A value, after its items if it has any. -/
def unfolded : Bson → List Bson
  | .array items => items ++ [.array items]
  | v => [v]

/-- The values to which a path leads. -/
def reached (d : Document) (path : String) : List Bson :=
  ((FieldPath.segments path).foldl (fun values segment => values.flatMap (below segment))
    [.document d]).flatMap unfolded

/-! ### Selection -/

/-- Whether an operator holds of one of the values. -/
def operatorHolds (values : List Bson) : String × Bson → Bool
  | ("$in", .array set) => values.any fun value => set.any value.eqv
  | ("$eq", argument) => values.any (·.eqv argument)
  | _ => false

/-- Whether one of the values meets a condition: all operators of a document of operators, and
equality otherwise. -/
def meets (values : List Bson) : Bson → Bool
  | .document entries =>
    if entries.any (isOperator ·.1) then entries.all (operatorHolds values)
    else values.any (·.eqv (.document entries))
  | condition => values.any (·.eqv condition)

mutual

/-- Whether a document meets every entry of a filter. -/
def selects (d : Document) : List (String × Bson) → Bool
  | [] => true
  | entry :: entries => selectsEntry d entry && selects d entries

/-- An entry joins filters, or names a path and a condition. -/
def selectsEntry (d : Document) : String × Bson → Bool
  | (name, condition) =>
    if name = "$and" then (verdicts d condition).all id
    else if name = "$or" then (verdicts d condition).any id
    else meets (reached d name) condition

/-- What the filters in an array say of a document. -/
def verdicts (d : Document) : Bson → List Bool
  | .array items => itemVerdicts d items
  | _ => []

def itemVerdicts (d : Document) : List Bson → List Bool
  | [] => []
  | .document entries :: items => selects d entries :: itemVerdicts d items
  | _ :: items => itemVerdicts d items

end

/-! ### Order -/

/-- Compares two values: numbers, texts or booleans; all else counts as equal. -/
def compareValues (a b : Bson) : Ordering :=
  match a.number?, b.number? with
  | some x, some y => (x.compare? y).getD .eq
  | _, _ =>
    match a, b with
    | .string s, .string t => compare s t
    | .boolean p, .boolean q => compare p q
    | _, _ => .eq

/-- A missing value comes before all others. -/
def compareFirst : List Bson → List Bson → Ordering
  | [], [] => .eq
  | [], _ => .lt
  | _, [] => .gt
  | a :: _, b :: _ => compareValues a b

/-- Whether a number is below zero. -/
def isNegative (flag : Bson) : Bool := (flag.number?.map (·.lt .zero)).getD false

/-- Compares two documents under one sort key. -/
def compareUnder (key : String × Bson) (a b : Document) : Ordering :=
  let ordering := compareFirst (reached a key.1) (reached b key.1)
  if isNegative key.2 then ordering.swap else ordering

/-- Compares two documents under sort keys; the first one that tells them apart decides. -/
def compareUnderAll (keys : Document) (a b : Document) : Ordering :=
  keys.foldr (fun key rest => (compareUnder key a b).then rest) .eq

/-! ### Projection -/

def isZero (flag : Bson) : Bool := (flag.number?.map (·.eqv .zero)).getD false

/-- What a projection keeps of a document: the identity unless that is left out, and the top
level of every path that is named. -/
def project (projection : Document) (d : Document) : Document :=
  let keepsId := !((Fields.get? projection storedId).map isZero).getD false
  let identity : Document :=
    if keepsId then ((Fields.get? d storedId).map fun v => (storedId, v)).toList else []
  let named := projection.filter fun entry => !(entry.1 = storedId || isZero entry.2)
  named.foldl (fun kept entry =>
    let top := FieldPath.top entry.1
    match Fields.get? d top with
    | some v => Fields.set kept top v
    | none => kept) identity

/-! ### Collections -/

abbrev Collection := List Document

namespace Collection

/-- The identity of a document, if it is a text. -/
def idOf (d : Document) : Option String := (Fields.get? d storedId).bind Bson.asString?

/-- The identities of all documents. -/
def ids (c : Collection) : List String := c.filterMap idOf

def find (c : Collection) (q : Query) : List Document :=
  let found := c.filter fun d => selects d q.filter
  let sorted := match q.sort with
    | some keys => found.mergeSort fun a b => compareUnderAll keys a b != .gt
    | none => found
  match q.projection with
  | some projection => sorted.map (project projection)
  | none => sorted

def findById (c : Collection) (id : String) : Option Document := c.find? (idOf · = some id)

/-- Adds the document of an order at the end, unless one with its identity is there. -/
def insert (c : Collection) (o : Order) : Except Setback Collection :=
  match ofOrder o with
  | .error fault => .error (.broken fault.message)
  | .ok d =>
    if c.any (idOf · = some o.id) then .error (.refused .store ("Duplicate key: " ++ o.id))
    else .ok (c ++ [d])

def remove (c : Collection) (id : String) : Collection := c.filter (idOf · ≠ some id)

end Collection

end OrderDesk.Documents
