import OrderDesk.Bson.Basic
import OrderDesk.Json.Basic

/-!
# Names and literals in the document store

The identity of a record is stored as `_id`. A JSON value in a query becomes a stored value of
the same meaning: whole numbers have 64 bits where they fit, all other numbers are doubles.
-/

namespace OrderDesk.Documents

/-- The name under which the identity is stored. -/
def storedId : String := "_id"

/-- The name of the identity for callers. -/
def callerId : String := "id"

/-- The stored name of a field. -/
def storedName (field : String) : String := if field = callerId then storedId else field

/-- Names that begin with a dollar sign are set apart for operators and types. -/
def isOperator (name : String) : Bool := name.toList.head? = some '$'

def numberLiteral (n : Json.Number) : Bson :=
  match n.toInt? with
  | some i => .int64 (.ofInt i)
  | none => .double n.toBinary64

mutual

/-- The stored form of a value in a query. Every value has one. -/
def literal : Json → Bson
  | .null => .null
  | .boolean b => .boolean b
  | .number n => numberLiteral n
  | .string s => .string s
  | .array items => .array (literals items)
  | .object members => .document (entryLiterals members)

def literals : List Json → List Bson
  | [] => []
  | item :: items => literal item :: literals items

def entryLiterals : List (String × Json) → List (String × Bson)
  | [] => []
  | member :: members => entryLiteral member :: entryLiterals members

def entryLiteral : String × Json → String × Bson
  | (name, value) => (name, literal value)

end

end OrderDesk.Documents
