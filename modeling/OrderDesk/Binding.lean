import OrderDesk.Json.Printer
import OrderDesk.Json.Reader
import OrderDesk.Text.Printable

/-!
# Binding JSON to records

A draft is bound to a type of the domain from its start to its end, so the first flaw in the
order of the text is the one reported, whether the text goes wrong there or says something of the
wrong shape. A value that is already held is bound through its own draft.
-/

namespace OrderDesk.Binding

open Json (Draft Room)

/-- What stands where something else was wanted. -/
inductive Found where
  | null
  | boolean (b : Bool)
  | number (n : Json.Number)
  | string (s : String)
  | list
  | map

/-- What a place in a record takes. -/
inductive Shape where
  | string
  | list
  | map
  | natural32
  | float
  | record (name : String)

/-- Why a draft that reads well does not bind. -/
inductive Mismatch where
  | wrongType (found : Found) (wanted : Shape)
  | outOfRange (n : Int) (wanted : Shape)
  | repeatedField (name : String)
  | tooLong (length : Nat)
  | noVariant (choice : String)
  /-- The shape is right, but the domain refuses what is said. -/
  | refused (reason : String)

/-- A step on the way to a place in a value. -/
inductive Step where
  | member (name : String)
  | item (index : Nat)

/-- The first flaw of a text. -/
inductive Flaw where
  /-- The text goes wrong as JSON. -/
  | malformed
  | mismatch (path : List Step) (cause : Mismatch)

/-! ### Messages -/

def Found.text : Found → String
  | null => "null"
  | boolean b => "boolean `" ++ (if b then "true" else "false") ++ "`"
  | number (.float x) => "floating point `" ++ (Json.Number.float x).write ++ "`"
  | number n => "integer `" ++ n.write ++ "`"
  | string s => "string " ++ Text.quoted s
  | list => "sequence"
  | map => "map"

def Shape.text : Shape → String
  | string => "a string"
  | list => "a sequence"
  | map => "a map"
  | natural32 => "u32"
  | float => "f64"
  | record name => "struct " ++ name

def Mismatch.message : Mismatch → String
  | wrongType found wanted => "invalid type: " ++ found.text ++ ", expected " ++ wanted.text
  | outOfRange n wanted =>
    "invalid value: integer `" ++ toString n ++ "`, expected " ++ wanted.text
  | repeatedField name => "duplicate field `" ++ name ++ "`"
  | tooLong length =>
    "invalid length " ++ toString length ++ ", expected fewer elements in array"
  | noVariant choice => "data did not match any variant of untagged enum " ++ choice
  | refused reason => reason

/-- What is said of a flaw on its own. The place where a text goes wrong is not told. -/
def Flaw.message : Flaw → String
  | malformed => "<json syntax>"
  | mismatch _ cause => cause.message

/-- A path as member names joined by points, with indexes in brackets. -/
def pathText : List Step → String
  | [] => ""
  | step :: steps => first step ++ String.join (steps.map next)
where
  /-- The first step has no point before it. -/
  first : Step → String
    | .member name => name
    | .item index => "[" ++ toString index ++ "]"
  next : Step → String
    | .member name => "." ++ name
    | .item index => "[" ++ toString index ++ "]"

/-! ### Binding -/

/-- The result of binding a draft. -/
abbrev Bound (α : Type) := Except Flaw α

def fail {α : Type} (cause : Mismatch) : Bound α := .error (.mismatch [] cause)

/-- Places a flaw one step further from the root. -/
def Flaw.below (step : Step) : Flaw → Flaw
  | malformed => malformed
  | mismatch path cause => mismatch (step :: path) cause

def within {α : Type} (step : Step) : Bound α → Bound α
  | .ok a => .ok a
  | .error flaw => .error (flaw.below step)

/-- A draft of the wrong shape, unless the text goes wrong before its shape is known. -/
def unexpected {α : Type} (wanted : Shape) : Draft → Bound α
  | .null => fail (.wrongType .null wanted)
  | .boolean b => fail (.wrongType (.boolean b) wanted)
  | .number n => fail (.wrongType (.number n) wanted)
  | .string s => fail (.wrongType (.string s) wanted)
  | .array _ _ => fail (.wrongType .list wanted)
  | .object _ _ => fail (.wrongType .map wanted)
  | .unreadable | .broken => .error .malformed

/-- How a draft is bound to a type, given the room for containers. -/
abbrev Binder (α : Type) := Room → Draft → Bound α

def enter (room : Room) : Bound Room :=
  match room.enter? with
  | some room => .ok room
  | none => .error .malformed

/-- What binds must be closed in the text. -/
def closing {α : Type} (closed : Bool) (a : α) : Bound α :=
  if closed then .ok a else .error .malformed

def string : Binder String
  | _, .string s => .ok s
  | _, d => unexpected .string d

/-- Natural numbers below `2 ^ 32`. -/
def natural32 : Binder UInt32
  | _, .number (.natural n) =>
    if n < 0x100000000 then .ok (.ofNat n) else fail (.outOfRange n .natural32)
  | _, .number (.negative n _) => fail (.outOfRange n .natural32)
  | _, d => unexpected .natural32 d

/-- Any number. -/
def float : Binder Binary64
  | _, .number n => .ok n.toBinary64
  | _, d => unexpected .float d

/-- Any value. -/
def value : Binder Json
  | room, d =>
    match d.value? room with
    | some v => .ok v
    | none => .error .malformed

/-- The default in place of `null`. -/
def orDefault {α : Type} [Inhabited α] (bind : Binder α) : Binder α
  | _, .null => .ok default
  | room, d => bind room d

/-- Lists, item by item. -/
def list {α : Type} (bind : Binder α) : Binder (List α)
  | room, .array items closed => do
    let room ← enter room
    let bound ← items.zipIdx.mapM fun (item, index) => within (.item index) (bind room item)
    closing closed bound
  | _, d => unexpected .list d

/-- Objects with members of one kind. A repeated name keeps its first place and its last value. -/
def map {α : Type} (bind : Binder α) : Binder (Fields α)
  | room, .object members closed => do
    let room ← enter room
    let bound ← members.mapM fun (name, item) =>
      match name with
      | some name => do return (name, ← within (.member name) (bind room item))
      | none => .error .malformed
    closing closed (Fields.ofEntries bound)
  | _, d => unexpected .map d

/-! ### Records -/

/-- A part of a record: its names and how its draft changes the record. -/
structure Part (ρ : Type) where
  name : String
  secondName : Option String := none
  bind : Room → Draft → ρ → Bound ρ

/-- A part that is bound on its own and then put into the record. -/
def Part.of {ρ α : Type} (name : String) (bind : Binder α) (put : α → ρ → ρ)
    (secondName : Option String := none) : Part ρ where
  name
  secondName
  bind room d r := (bind room d).map (put · r)

def Part.answersTo {ρ : Type} (p : Part ρ) (name : String) : Bool :=
  p.name = name || p.secondName = some name

/-- Binds members to parts in the order of the text. A part may be named once; a name that no
part has is passed over. -/
def bindMembers {ρ : Type} (parts : List (Part ρ)) (room : Room) :
    List String → ρ → List (Option String × Draft) → Bound ρ
  | _, r, [] => .ok r
  | _, _, (none, _) :: _ => .error .malformed
  | seen, r, (some name, d) :: members =>
    match parts.find? (·.answersTo name) with
    | none => if d.whole then bindMembers parts room seen r members else .error .malformed
    | some part =>
      if part.name ∈ seen then fail (.repeatedField part.name)
      else do
        let r ← within (.member name) (part.bind room d r)
        bindMembers parts room (part.name :: seen) r members

/-- Binds items to parts by position. Gives the items that are left over. -/
def bindItems {ρ : Type} (room : Room) :
    Nat → ρ → List (Part ρ) → List Draft → Bound (ρ × List Draft)
  | index, r, part :: parts, d :: items => do
    let r ← within (.item index) (part.bind room d r)
    bindItems room (index + 1) r parts items
  | _, r, _, items => .ok (r, items)

/-- A record from an object, or from an array with its parts in order. What is missing keeps its
value in `blank`. An array that is too long is malformed as text. -/
def record {ρ : Type} (name : String) (parts : List (Part ρ)) (blank : ρ) : Binder ρ
  | room, .object members closed => do
    let inner ← enter room
    closing closed (← bindMembers parts inner [] blank members)
  | room, .array items closed => do
    let inner ← enter room
    let (r, rest) ← bindItems inner 0 blank parts items
    if rest.isEmpty then closing closed r
    else if room.isSome then .error .malformed
    else fail (.tooLong items.length)
  | _, d => unexpected (.record name) d

/-! ### Entry points -/

/-- Binds a text. -/
def ofText {α : Type} (bind : Binder α) (text : String) : Bound α := do
  let reading := Json.draft text
  let bound ← bind Json.textRoom reading.root
  closing reading.ended bound

/-- Binds a value. -/
def ofValue {α : Type} (bind : Binder α) (v : Json) : Bound α := bind none (Draft.ofValue v)

end OrderDesk.Binding
