import OrderDesk.FieldPath
import OrderDesk.Filter.Request
import OrderDesk.Json.Printer

/-!
# Valid filter requests

Field names are words joined by points, exact filters list at least one value, and the values
are strings, numbers or booleans. The identity of a record is called `id`; the name under which
it is stored is reserved.
-/

namespace OrderDesk.Filter

/-- The parts of a request that name fields. -/
inductive Section where
  | exact
  | matching
  | fields
  | sort
deriving DecidableEq

def Section.name : Section → String
  | exact => "exact_filters"
  | matching => "match"
  | fields => "fields"
  | sort => "sort"

/-- Why a request is not valid. -/
inductive Invalid where
  | reservedField (field : String) (part : Section)
  | malformedField (field : String) (part : Section)
  | noValues (field : String)
  | exactValue (field : String) (value : Json)
  | matchValue (field : String) (value : Json)

def Invalid.message : Invalid → String
  | reservedField field part =>
    "field '" ++ field ++ "' in " ++ part.name ++ " is reserved, use 'id'"
  | malformedField field part => "invalid field name '" ++ field ++ "' in " ++ part.name
  | noValues field => "exact_filters." ++ field ++ " must list at least one value"
  | exactValue field value =>
    "exact_filters." ++ field ++ " values must be strings, numbers or booleans, got " ++ value.write
  | matchValue field value =>
    "match." ++ field ++ " must be a string, number or boolean, got " ++ value.write

/-- Letters, digits and underscores, all of them ASCII. -/
def isWordChar (c : Char) : Bool := c.isAlphanum || c = '_'

def isWordStart (c : Char) : Bool := c.isAlpha || c = '_'

/-- Segments between points: the first a word that starts with no digit, the others of letters
and digits, underscores included, and none of them empty. -/
def isFieldName (field : String) : Bool :=
  match FieldPath.split '.' field.toList with
  | (c :: first) :: rest =>
    isWordStart c && first.all isWordChar &&
      rest.all fun segment => !segment.isEmpty && segment.all isWordChar
  | _ => false

/-- The stored name of the identity, and the paths below it. -/
def isReserved (field : String) : Bool :=
  field = "_id" || FieldPath.isBelow field "_id"

def checkField (part : Section) (field : String) : Except Invalid Unit :=
  if isReserved field then .error (.reservedField field part)
  else if isFieldName field then .ok ()
  else .error (.malformedField field part)

/-- A string, a number or a boolean. -/
def isLiteral (v : Json) : Bool := v.isScalar && !v.isNull

def checkExact (entry : String × List Json) : Except Invalid Unit := do
  checkField .exact entry.1
  if entry.2.isEmpty then throw (.noValues entry.1)
  match entry.2.find? (!isLiteral ·) with
  | some v => throw (.exactValue entry.1 v)
  | none => return ()

def checkMatch (entry : String × Json) : Except Invalid Unit := do
  checkField .matching entry.1
  if isLiteral entry.2 then return () else throw (.matchValue entry.1 entry.2)

/-- The first fault of a request, from its exact filters to its sort keys. -/
def Request.check (r : Request) : Except Invalid Unit := do
  r.exact.forM checkExact
  r.matching.forM checkMatch
  r.fields.forM (checkField .fields)
  r.sort.forM fun key => checkField .sort key.field

end OrderDesk.Filter
