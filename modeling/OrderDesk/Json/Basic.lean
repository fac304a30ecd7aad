import OrderDesk.Binary64.Basic
import OrderDesk.Fields

/-!
# JSON values

Objects keep the order of their members, but equality does not look at it. A number is a
natural number, a negative one or a float; equal numbers are of one class, so `1` and `1.0`
differ.
-/

namespace OrderDesk

/-- A JSON number. Text yields naturals below `2 ^ 64`; what lies beyond is a float there. A natural
number has no bound of its own, since a count of hits is one too, however many there are. -/
inductive Json.Number where
  | natural (n : Nat)
  | negative (n : Int) (range : -0x8000000000000000 ≤ n ∧ n < 0)
  | float (x : Binary64.Finite)
deriving DecidableEq

/-- A JSON value. -/
inductive Json where
  | null
  | boolean (b : Bool)
  | number (n : Json.Number)
  | string (s : String)
  | array (items : List Json)
  | object (members : List (String × Json))

namespace Json

instance : Inhabited Json := ⟨null⟩

namespace Number

/-- Equality of numbers: within one class, and numerically among floats. -/
def same : Number → Number → Bool
  | natural m, natural n => m = n
  | negative m _, negative n _ => m = n
  | float x, float y => x.value = y.value
  | _, _ => false

/-- The float nearest to a number. -/
def toBinary64 : Number → Binary64
  | natural n => .ofNat n
  | negative n _ => .ofInt n
  | float x => .finite x

/-- The number as a whole number, if it is one and 64 bits with a sign hold it. -/
def toInt? : Number → Option Int
  | natural n => if n < 0x8000000000000000 then some n else none
  | negative n _ => some n
  | float _ => none

def toNat? : Number → Option Nat
  | natural n => some n
  | _ => none

/-- A float as a number, unless it is not finite. -/
def ofBinary64? : Binary64 → Option Number
  | .finite x => some (float x)
  | _ => none

/-- A whole number of 64 bits with a sign. -/
def ofInt64 (n : Int64) : Number :=
  if h : n.toInt < 0 then negative n.toInt ⟨n.le_toInt, h⟩ else natural n.toInt.toNat

end Number

mutual

/-- Equality of values. The order of members does not matter. -/
def same : Json → Json → Bool
  | null, null => true
  | boolean a, boolean b => a = b
  | number a, number b => a.same b
  | string a, string b => a = b
  | array a, array b => sameItems a b
  | object a, object b => a.length = b.length && sameMembers a b
  | _, _ => false

def sameItems : List Json → List Json → Bool
  | [], [] => true
  | a :: as, b :: bs => a.same b && sameItems as bs
  | _, _ => false

/-- Whether each member is among the second members with an equal value. -/
def sameMembers : List (String × Json) → List (String × Json) → Bool
  | [], _ => true
  | a :: as, bs => sameMember a bs && sameMembers as bs

def sameMember : String × Json → List (String × Json) → Bool
  | (name, value), bs =>
    match Fields.get? bs name with
    | some b => value.same b
    | none => false

end

/-- Whether a list holds a value equal to this one. -/
def isIn (value : Json) (items : List Json) : Bool := items.any value.same

/-- The values that equal no earlier one. -/
def distinct (items : List Json) : List Json :=
  items.foldl (fun kept value => if value.isIn kept then kept else kept ++ [value]) []

/-- The member of an object; nothing else has members. -/
def get? : Json → String → Option Json
  | object members, name => Fields.get? members name
  | _, _ => none

/-- The value reached by following member names. -/
def follow? (value : Json) : List String → Option Json
  | [] => some value
  | name :: names => (value.get? name).bind (·.follow? names)

def asString? : Json → Option String
  | string s => some s
  | _ => none

def asNat? : Json → Option Nat
  | number n => n.toNat?
  | _ => none

def asArray? : Json → Option (List Json)
  | array items => some items
  | _ => none

def asBinary64? : Json → Option Binary64
  | number n => some n.toBinary64
  | _ => none

def isNull : Json → Bool
  | null => true
  | _ => false

/-- A value that is neither an array nor an object. -/
def isScalar : Json → Bool
  | array _ | object _ => false
  | _ => true

def ofNat (n : Nat) : Json := number (.natural n)

/-- A float; what is not finite has no JSON number and becomes `null`. -/
def ofBinary64 (x : Binary64) : Json :=
  match Number.ofBinary64? x with
  | some n => number n
  | none => null

end Json

end OrderDesk
