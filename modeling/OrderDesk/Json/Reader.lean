import OrderDesk.Json.Draft

/-!
# Reading JSON values

A draft is a value if the text never goes wrong in it, every scalar stands for a value, and its
containers are not too deep. A repeated name keeps its first place and its last value.
-/

namespace OrderDesk.Json

/-- How many containers may be entered, one inside the other; `none` sets no limit. -/
abbrev Room := Option Nat

/-- The room inside a container, if it may be entered. -/
def Room.enter? : Room → Option Room
  | none => some none
  | some 0 => none
  | some (n + 1) => some (some n)

/-- The depth to which text is read. -/
def textRoom : Room := some 127

namespace Draft

mutual

/-- The value of a draft. -/
def value? (room : Room) : Draft → Option Json
  | null => some .null
  | boolean b => some (.boolean b)
  | number n => some (.number n)
  | string s => some (.string s)
  | unreadable | broken => none
  | array items closed =>
    match room.enter?, closed with
    | some room, true => (values? room items).map .array
    | _, _ => none
  | object members closed =>
    match room.enter?, closed with
    | some room, true => (memberValues? room members).map fun ms => .object (Fields.ofEntries ms)
    | _, _ => none

def values? (room : Room) : List Draft → Option (List Json)
  | [] => some []
  | item :: items => do return (← value? room item) :: (← values? room items)

def memberValues? (room : Room) : List (Option String × Draft) → Option (List (String × Json))
  | [] => some []
  | member :: members => do
    return (← memberValue? room member) :: (← memberValues? room members)

def memberValue? (room : Room) : Option String × Draft → Option (String × Json)
  | (some name, item) => do return (name, ← value? room item)
  | (none, _) => none

end

/-- The value of the one member with a name; `none` if there is no such member or a second one. -/
def soleMember? (name : String) (members : List (Option String × Draft)) : Option Draft :=
  match members.filter (·.1 = some name) with
  | [(_, d)] => some d
  | _ => none

mutual

/-- A value as the draft of a text that spells it. -/
def ofValue : Json → Draft
  | .null => null
  | .boolean b => boolean b
  | .number n => number n
  | .string s => string s
  | .array items => array (ofValues items) true
  | .object members => object (ofMembers members) true

def ofValues : List Json → List Draft
  | [] => []
  | item :: items => ofValue item :: ofValues items

def ofMembers : List (String × Json) → List (Option String × Draft)
  | [] => []
  | member :: members => ofMember member :: ofMembers members

def ofMember : String × Json → Option String × Draft
  | (name, item) => (some name, ofValue item)

end

end Draft

/-- The value that a text spells, if it is JSON. -/
def parse? (text : String) : Option Json :=
  let reading := draft text
  if reading.ended then reading.root.value? textRoom else none

/-- A text that goes wrong at once spells no value. -/
theorem parse?_of_broken {text : String} (h : tokens text.toList = [.broken]) :
    parse? text = none := by
  rw [parse?, draft, h]
  simp [Draft.assemble, Draft.abandon, Draft.value?]

theorem parse?_brackets : parse? "[]" = some (.array []) := by
  have htokens : tokens "[]".toList = [.openArray, .closeArray] := rfl
  rw [parse?, draft, htokens]
  simp only [Draft.assemble, Draft.assemble.finish]
  rfl

theorem parse?_braces : parse? "\x7b\x7d" = some (.object []) := by
  have htokens : tokens "\x7b\x7d".toList = [.openObject, .closeObject] := rfl
  rw [parse?, draft, htokens]
  simp only [Draft.assemble, Draft.assemble.finish]
  rfl

end OrderDesk.Json
