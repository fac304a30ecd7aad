import OrderDesk.Calendar.Written
import OrderDesk.Documents.Literal
import OrderDesk.Failure
import OrderDesk.Order.Binding
import OrderDesk.Order.Written

/-!
# Stored records

A JSON object becomes a document in which the identity has its stored name, and a document
becomes JSON again. The types that JSON lacks are written as objects with a reserved key. Which of
these are read as such again is up to the database library, so it is left open here.

An order is stored as the document of its JSON form, and is read back from it. A list of
documents is read as a whole or not at all, so that no order is dropped silently.
-/

namespace OrderDesk.Documents

/-! ### From JSON -/

/-- Why a value is no stored record. -/
inductive RecordFault where
  | notAnObject
  | tooLarge (n : Nat)
deriving DecidableEq

def RecordFault.message : RecordFault → String
  | notAnObject => "Expected BSON document, got non-object"
  | tooLarge n =>
    "Failed to convert JSON to BSON: BSON does not support unsigned integers.\n" ++
      String.ofList (List.replicate 17 ' ') ++ "An attempt to serialize the value: " ++
      toString n ++ " in a signed type failed due to the value's size."

/-- A number in a record: a whole number has 64 bits with a sign. -/
def recordNumber : Json.Number → Except RecordFault Bson
  | .natural n => if n < 0x8000000000000000 then .ok (.int64 (.ofNat n)) else .error (.tooLarge n)
  | .negative n _ => .ok (.int64 (.ofInt n))
  | .float x => .ok (.double (.finite x))

/-- How objects spell values of the types that JSON lacks, by names that are set apart. -/
structure Extension where
  /-- The value that an object spells with its stored members. -/
  value? : Document → Option Bson
  exists_isOperator {d : Document} {b : Bson} (h : value? d = some b) :
    ∃ entry ∈ d, isOperator entry.1 = true

namespace Extension

/-- All objects are documents. -/
def none : Extension := ⟨fun _ => .none, nofun⟩

/-- The stored form of an object with stored members. -/
def read (ext : Extension) (d : Document) : Bson := (ext.value? d).getD (.document d)

variable (ext : Extension)

theorem read_of_value?_eq_none {d : Document} (h : ext.value? d = .none) :
    ext.read d = .document d := by
  rw [read, h, Option.getD_none]

theorem value?_eq_none {d : Document} (h : ∀ entry ∈ d, isOperator entry.1 = false) :
    ext.value? d = .none := by
  apply Option.eq_none_iff_forall_ne_some.mpr
  intro b hb
  obtain ⟨entry, hentry, hoperator⟩ := ext.exists_isOperator hb
  exact Bool.false_ne_true ((h entry hentry).symm.trans hoperator)

end Extension

section Stored

variable (ext : Extension)

mutual

/-- The stored form of a value in a record. -/
def stored : Json → Except RecordFault Bson
  | .null => .ok .null
  | .boolean b => .ok (.boolean b)
  | .number n => recordNumber n
  | .string s => .ok (.string s)
  | .array items => do return .array (← storedItems items)
  | .object members => do return ext.read (← storedMembers members)

def storedItems : List Json → Except RecordFault (List Bson)
  | [] => .ok []
  | item :: items => do return (← stored item) :: (← storedItems items)

def storedMembers : List (String × Json) → Except RecordFault (List (String × Bson))
  | [] => .ok []
  | member :: members => do return (← storedMember member) :: (← storedMembers members)

def storedMember : String × Json → Except RecordFault (String × Bson)
  | (name, value) => do return (name, ← stored value)

end

end Stored

/-- Moves the entry under one name to another one, in place if that is present and else at the
end. -/
def rename {α : Type} (fs : Fields α) (old new : String) : Fields α :=
  match Fields.get? fs old with
  | some value => Fields.set (Fields.without fs old) new value
  | none => fs

/-- The document of a JSON object. -/
def ofJson (v : Json) (ext : Extension := .none) : Except RecordFault Document := do
  match ← stored ext v with
  | .document entries => return rename entries callerId storedId
  | _ => throw .notAnObject

/-! ### To JSON -/

/-- A double: what is not finite is spelt out. -/
def doubleJson : Binary64 → Json
  | .finite x => .number (.float x)
  | .nan => .object [("$numberDouble", .string "NaN")]
  | .infinite false => .object [("$numberDouble", .string "Infinity")]
  | .infinite true => .object [("$numberDouble", .string "-Infinity")]

def int64Json (n : Int64) : Json := .number (.ofInt64 n)

/-- A date: as text from the epoch to the year 9999, else by its milliseconds. -/
def dateJson (millis : Int64) : Json :=
  let byMillis : Json := .object [("$numberLong", .string (toString millis.toInt))]
  let date :=
    match Calendar.Instant.ofMillis? millis.toInt with
    | some t => if 0 ≤ millis.toInt ∧ t.date.year ≤ 9999 then .string t.writeShort else byMillis
    | none => byMillis
  .object [("$date", date)]

mutual

/-- The JSON form of a stored value. -/
def toJsonValue : Bson → Json
  | .null => .null
  | .boolean b => .boolean b
  | .int32 n => int64Json n.toInt64
  | .int64 n => int64Json n
  | .double x => doubleJson x
  | .string s => .string s
  | .array items => .array (toJsonItems items)
  | .document entries => .object (toJsonEntries entries)
  | .objectId hex => .object [("$oid", .string hex)]
  | .dateTime millis => dateJson millis
  | .decimal128 text => .object [("$numberDecimal", .string text)]
  | .symbol s => .object [("$symbol", .string s)]
  | .code s => .object [("$code", .string s)]
  | .regex pattern options =>
    .object [("$regularExpression", .object [("pattern", .string pattern),
      ("options", .string (String.ofList (options.toList.mergeSort (· ≤ ·))))])]
  | .timestamp time increment =>
    .object [("$timestamp", .object [("t", .ofNat time.toNat), ("i", .ofNat increment.toNat)])]
  | .undefined => .object [("$undefined", .boolean true)]
  | .minKey => .object [("$minKey", .ofNat 1)]
  | .maxKey => .object [("$maxKey", .ofNat 1)]

def toJsonItems : List Bson → List Json
  | [] => []
  | item :: items => toJsonValue item :: toJsonItems items

def toJsonEntries : List (String × Bson) → List (String × Json)
  | [] => []
  | entry :: entries => toJsonEntry entry :: toJsonEntries entries

def toJsonEntry : String × Bson → String × Json
  | (name, value) => (name, toJsonValue value)

end

/-- The JSON object of a document. -/
def toJson (d : Document) : Json := toJsonValue (.document (rename d storedId callerId))

/-! ### Orders -/

/-- The document under which an order is stored. -/
def ofOrder (o : Order) : Except RecordFault Document := ofJson o.toJson

/-- The order that a document holds. -/
def order (d : Document) : Binding.Bound Order := Binding.ofValue Order.bind (toJson d)

/-- The orders that documents hold, one for each. -/
def orders (ds : List Document) : Except Failure (List Order) :=
  ds.mapM fun d => (order d).mapError fun flaw => .undecodable .store flaw.message

end OrderDesk.Documents
