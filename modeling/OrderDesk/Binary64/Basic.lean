/-!
# Binary floating-point numbers of 64 bits

A finite number is a sign and a whole number of units of `2 ^ -1074`, written as
`mantissa * 2 ^ exponent` in the one way that 64 bits allow. Every operation computes
the exact result on whole numbers and rounds it once, to the nearest number and to the
even one of two equally near. Comparison is comparison of units, so it is an order on
everything but `nan`.
-/

namespace OrderDesk

/-- A finite number in its only form: `mantissa * 2 ^ exponent` units of `2 ^ -1074`. -/
structure Binary64.Finite where
  negative : Bool
  mantissa : Nat
  exponent : Nat
  mantissa_lt : mantissa < 0x20000000000000 := by decide
  normal : exponent = 0 ∨ 0x10000000000000 ≤ mantissa := by decide
  exponent_le : exponent ≤ 2045 := by decide
deriving DecidableEq

/-- A number of the format, the infinities and the one undefined result included. -/
inductive Binary64 where
  | nan
  | infinite (negative : Bool)
  | finite (x : Binary64.Finite)
deriving DecidableEq

namespace Binary64

/-- The distance from zero in units of `2 ^ -1074`. -/
def Finite.units (x : Finite) : Nat := x.mantissa * Nat.pow 2 x.exponent

/-- The value in units of `2 ^ -1074`. -/
def Finite.value (x : Finite) : Int := if x.negative then -x.units else x.units

def Finite.zero : Finite := { negative := false, mantissa := 0, exponent := 0 }

instance : Inhabited Finite := ⟨Finite.zero⟩

def zero : Binary64 := finite Finite.zero

instance : Inhabited Binary64 := ⟨zero⟩

/-- How many units make one. -/
def one : Nat := Nat.pow 2 1074

/-! ### Rounding -/

/-- The whole number nearest to `num / den`, the even one of two equally near. -/
def nearestEven (num den : Nat) : Nat :=
  let floor := num / den
  match compare (2 * (num % den)) den with
  | .lt => floor
  | .gt => floor + 1
  | .eq => if floor % 2 = 0 then floor else floor + 1

/-- The number with this mantissa and exponent; what lies beyond the largest one is infinite. -/
def ofParts (negative : Bool) (mantissa exponent : Nat) : Binary64 :=
  if h : mantissa < 0x20000000000000 ∧ (exponent = 0 ∨ 0x10000000000000 ≤ mantissa) ∧
      exponent ≤ 2045 then
    finite ⟨negative, mantissa, exponent, h.1, h.2.1, h.2.2⟩
  else infinite negative

/-- The number nearest to `num / den` units. -/
def ofUnits (negative : Bool) (num den : Nat) : Binary64 :=
  let exponent := (num / den).log2 - 52
  let mantissa := nearestEven num (den * Nat.pow 2 exponent)
  if mantissa = 0x20000000000000 then ofParts negative (0x10000000000000) (exponent + 1)
  else ofParts negative mantissa exponent

/-- The number nearest to `num / den`. -/
def ofRatio (negative : Bool) (num den : Nat) : Binary64 := ofUnits negative (num * one) den

/-- The number nearest to a whole number. -/
def ofInt (n : Int) : Binary64 := ofRatio (n < 0) n.natAbs 1

def ofNat (n : Nat) : Binary64 := ofRatio false n 1

/-- The number nearest to `digits * 10 ^ scale`. -/
def ofDecimal (negative : Bool) (digits : Nat) (scale : Int) : Binary64 :=
  ofRatio negative (digits * Nat.pow 10 scale.toNat) (Nat.pow 10 (-scale).toNat)

/-! ### Sign and kind -/

def isFinite : Binary64 → Bool
  | finite _ => true
  | _ => false

/-! ### Comparison -/

/-- The place of a number in the order; the infinities stand beyond every finite one. -/
def rank? : Binary64 → Option Int
  | nan => none
  | infinite s => some (if s then -Nat.pow 2 2098 else Nat.pow 2 2098)
  | finite x => some x.value

/-- Numeric equality: the two zeros are equal and `nan` equals nothing. -/
def eqv (x y : Binary64) : Bool :=
  match x.rank?, y.rank? with
  | some a, some b => a == b
  | _, _ => false

/-- The order of two numbers, if they have one. -/
def compare? (x y : Binary64) : Option Ordering :=
  match x.rank?, y.rank? with
  | some a, some b => some (compare a b)
  | _, _ => none

def lt (x y : Binary64) : Bool := x.compare? y == some .lt

/-! ### Arithmetic -/

/-- The number nearest to `n / den` units, where a result of zero has the given sign. -/
private def signed (zeroNegative : Bool) (n : Int) (den : Nat) : Binary64 :=
  ofUnits (if n = 0 then zeroNegative else n < 0) n.natAbs den

def add : Binary64 → Binary64 → Binary64
  | finite x, finite y => signed (x.negative && y.negative) (x.value + y.value) 1
  | infinite s, infinite t => if s = t then infinite s else nan
  | infinite s, finite _ => infinite s
  | finite _, infinite t => infinite t
  | _, _ => nan

def mul : Binary64 → Binary64 → Binary64
  | finite x, finite y => ofUnits (x.negative != y.negative) (x.units * y.units) one
  | infinite s, infinite t => infinite (s != t)
  | infinite s, finite y => if y.units = 0 then nan else infinite (s != y.negative)
  | finite x, infinite t => if x.units = 0 then nan else infinite (x.negative != t)
  | _, _ => nan

def div : Binary64 → Binary64 → Binary64
  | finite x, finite y =>
    if y.units = 0 then
      if x.units = 0 then nan else infinite (x.negative != y.negative)
    else ofUnits (x.negative != y.negative) (x.units * one) y.units
  | infinite s, finite y => infinite (s != y.negative)
  | finite x, infinite t => finite { Finite.zero with negative := x.negative != t }
  | _, _ => nan

/-- The nearest whole number, away from zero where two are equally near. -/
def round : Binary64 → Binary64
  | finite x => ofRatio x.negative ((2 * x.units + one) / (2 * one)) 1
  | x => x

/-- A power by repeated squaring, rounding at every product. -/
def pow (x : Binary64) (n : Nat) : Binary64 := go n x (ofNat 1) n
where
  /-- Multiplies `acc` by the squarings of `x` that the binary digits of `n` select. -/
  go : Nat → Binary64 → Binary64 → Nat → Binary64
    | 0, _, acc, _ => acc
    | fuel + 1, x, acc, n =>
      let acc := if n % 2 = 1 then acc.mul x else acc
      if n / 2 = 0 then acc else go fuel (x.mul x) acc (n / 2)

end Binary64

end OrderDesk
