import OrderDesk.Binary64.Basic
import OrderDesk.Fields

/-!
# BSON values

The values that the document store keeps. A document keeps the order of its entries; equality
does not look at it.
-/

namespace OrderDesk

inductive Bson where
  | null
  | boolean (b : Bool)
  | int32 (n : Int32)
  | int64 (n : Int64)
  | double (x : Binary64)
  | string (s : String)
  | array (items : List Bson)
  | document (entries : List (String × Bson))
  | objectId (hex : String)
  /-- Milliseconds since the epoch. -/
  | dateTime (millis : Int64)
  | decimal128 (text : String)
  | symbol (s : String)
  | code (s : String)
  | regex (pattern options : String)
  | timestamp (time increment : UInt32)
  | undefined
  | minKey
  | maxKey

/-- A document: named values in order. -/
abbrev Document := Fields Bson

namespace Bson

instance : Inhabited Bson := ⟨null⟩

mutual

/-- Equality of values of one type; numbers of different types differ. -/
def same : Bson → Bson → Bool
  | null, null => true
  | boolean a, boolean b => a = b
  | int32 a, int32 b => a = b
  | int64 a, int64 b => a = b
  | double a, double b => a.eqv b
  | string a, string b => a = b
  | array a, array b => sameItems a b
  | document a, document b => a.length = b.length && sameEntries a b
  | objectId a, objectId b => a = b
  | dateTime a, dateTime b => a = b
  | decimal128 a, decimal128 b => a = b
  | symbol a, symbol b => a = b
  | code a, code b => a = b
  | regex p o, regex q r => p = q && o = r
  | timestamp t i, timestamp u j => t = u && i = j
  | undefined, undefined => true
  | minKey, minKey => true
  | maxKey, maxKey => true
  | _, _ => false

def sameItems : List Bson → List Bson → Bool
  | [], [] => true
  | a :: as, b :: bs => a.same b && sameItems as bs
  | _, _ => false

/-- Whether each entry is among the second entries with an equal value. -/
def sameEntries : List (String × Bson) → List (String × Bson) → Bool
  | [], _ => true
  | a :: as, bs => sameEntry a bs && sameEntries as bs

def sameEntry : String × Bson → List (String × Bson) → Bool
  | (name, value), bs =>
    match Fields.get? bs name with
    | some b => value.same b
    | none => false

end

/-- The float nearest to a number of any type. -/
def number? : Bson → Option Binary64
  | int32 n => some (.ofInt n.toInt)
  | int64 n => some (.ofInt n.toInt)
  | double x => some x
  | _ => none

/-- Equality as the document store sees it: numbers by value, all else by type and value. -/
def eqv (a b : Bson) : Bool :=
  match a.number?, b.number? with
  | some x, some y => x.eqv y
  | _, _ => a.same b

def asDocument? : Bson → Option Document
  | document entries => some entries
  | _ => none

def asArray? : Bson → Option (List Bson)
  | array items => some items
  | _ => none

def asString? : Bson → Option String
  | string s => some s
  | _ => none

end Bson

end OrderDesk
