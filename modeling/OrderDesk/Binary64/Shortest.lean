import OrderDesk.Binary64.Basic

/-!
# The shortest decimal of a number

The reals that round to a finite number form an interval, its ends included exactly when
the mantissa is even. The shortest decimal of the number lies in that interval, has the
fewest digits possible there, and of those is the nearest to the number.
-/

namespace OrderDesk

/-- The decimal `digits * 10 ^ scale`. -/
structure Decimal where
  digits : Nat
  scale : Int
deriving DecidableEq, Repr

namespace Decimal

/-- The same decimal without zeros at the end of its digits. -/
def stripZeros (d : Decimal) : Decimal := go d.digits d.digits d.scale
where
  /-- Divides by ten while that leaves no remainder. -/
  go : Nat → Nat → Int → Decimal
    | 0, digits, scale => ⟨digits, scale⟩
    | fuel + 1, digits, scale =>
      if digits ≠ 0 ∧ digits % 10 = 0 then go fuel (digits / 10) (scale + 1)
      else ⟨digits, scale⟩

end Decimal

namespace Binary64

/-- Which of two equally near decimals is taken. -/
inductive Tie where
  | toEven
  | awayFromZero
deriving DecidableEq

/-- Compares `digits * 10 ^ scale` with `n / 4` units. -/
def compareQuarters (d : Decimal) (n : Nat) : Ordering :=
  compare (d.digits * Nat.pow 10 d.scale.toNat * (4 * one)) (n * Nat.pow 10 (-d.scale).toNat)

namespace Finite

/-- Whether a decimal lies among the reals that round to the distance of `x` from zero. The gap
to the number below a power of two is half as wide as the gap above it. -/
def readsBack (x : Finite) (d : Decimal) : Bool :=
  let gap := Nat.pow 2 x.exponent
  let below := if x.mantissa = 0x10000000000000 ∧ x.exponent ≠ 0 then gap else 2 * gap
  let even := x.mantissa % 2 = 0
  let low := compareQuarters d (4 * x.units - below)
  let high := compareQuarters d (4 * x.units + 2 * gap)
  (low = .gt || (even && low = .eq)) && (high = .lt || (even && high = .eq))

/-- The least power of ten above the distance from zero, from a bound that is at most three
steps too low. -/
def powerAbove (x : Finite) : Int :=
  go 4 (((x.units.log2 : Int) - 1074) * 30103 / 100000)
where
  /-- Goes up while the power of ten is not above `x`. -/
  go : Nat → Int → Int
    | 0, k => k
    | fuel + 1, k => if compareQuarters ⟨1, k⟩ (4 * x.units) = .gt then k else go fuel (k + 1)

/-- The better of the two neighbours of `x` among the multiples of `10 ^ scale`, if one of them
reads back. -/
def onGrid? (x : Finite) (tie : Tie) (scale : Int) : Option Decimal :=
  let floor := x.units * Nat.pow 10 (-scale).toNat / (one * Nat.pow 10 scale.toNat)
  let down : Decimal := ⟨floor, scale⟩
  let up : Decimal := ⟨floor + 1, scale⟩
  match x.readsBack down, x.readsBack up with
  | true, false => some down
  | false, true => some up
  | false, false => none
  | true, true =>
    -- the middle between the two neighbours decides
    match compareQuarters ⟨2 * floor + 1, scale⟩ (8 * x.units), tie with
    | .gt, _ => some down
    | .lt, _ => some up
    | .eq, .awayFromZero => some up
    | .eq, .toEven => some (if floor % 2 = 0 then down else up)

/-- The shortest decimal that rounds to the distance of `x` from zero: the first grid that holds
one, from one digit on, and the exact value should no grid of seventeen digits do. -/
def shortest (x : Finite) (tie : Tie) : Decimal :=
  if x.units = 0 then ⟨0, 0⟩
  else
    let top := x.powerAbove
    match (List.range 17).findSome? fun (n : Nat) => x.onGrid? tie (top - n - 1) with
    | some d => d.stripZeros
    | none => (⟨x.units * Nat.pow 5 1074, -1074⟩ : Decimal).stripZeros

end Finite

end Binary64

end OrderDesk
