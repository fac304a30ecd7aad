import OrderDesk.Binary64.Basic

/-!
# Amounts of money

An amount is a whole number of at most 96 bits, divided by a power of ten of at most 28. Sums and
products are exact as long as they fit, and else lose digits from the right, rounded once.
-/

namespace OrderDesk

/-- The amount `mantissa / 10 ^ scale`. -/
structure Amount where
  mantissa : Nat
  scale : Nat
deriving DecidableEq, Repr

namespace Amount

def zero : Amount := ⟨0, 0⟩

/-- The bound of mantissas. -/
def limit : Nat := 0x1000000000000000000000000

def maxScale : Nat := 28

/-- The amount `mantissa / 10 ^ scale` with as few digits dropped as bring it into the bounds; a
half goes to the even neighbour. `none` if the whole part is too large. -/
def fit? (mantissa scale : Nat) : Option Amount :=
  (List.range (scale + 1)).findSome? fun dropped =>
    let kept := Binary64.nearestEven mantissa (Nat.pow 10 dropped)
    if scale - dropped ≤ maxScale ∧ kept < limit then some ⟨kept, scale - dropped⟩ else none

/-- The product with a whole number. -/
def times? (a : Amount) (n : Nat) : Option Amount :=
  if a.mantissa * n = 0 then some zero else fit? (a.mantissa * n) a.scale

def add? (a b : Amount) : Option Amount :=
  let scale := max a.scale b.scale
  fit? (a.mantissa * Nat.pow 10 (scale - a.scale) + b.mantissa * Nat.pow 10 (scale - b.scale)) scale

/-- The same amount without zeros at the end. -/
def normalized (a : Amount) : Amount := go a.scale a.mantissa
where
  /-- Drops at most `scale` zeros. -/
  go : Nat → Nat → Amount
    | 0, mantissa => ⟨mantissa, 0⟩
    | scale + 1, mantissa =>
      if mantissa % 10 = 0 then go scale (mantissa / 10) else ⟨mantissa, scale + 1⟩

/-! ### From floats

A float is a mantissa times a power of two. The power of two is traded for powers of five and ten,
with digits lost only where 96 bits do not hold them; then the digits beyond the precision of
floats are rounded away. -/

/-- A mantissa times a power of ten. -/
structure Scaled where
  mantissa : Nat
  power : Int

/-- Multiplies by `(10 / 2) ^ fives` and divides by `10 ^ fives`: a factor of two is taken out
where there is one, else five is put in. -/
def takeFives : Nat → Scaled → Scaled
  | 0, s => s
  | fives + 1, s =>
    if s.mantissa % 2 = 0 ∨ limit ≤ 5 * s.mantissa then
      takeFives fives ⟨s.mantissa / 2, s.power + 1⟩
    else takeFives fives { s with mantissa := 5 * s.mantissa }

/-- Divides by `5 ^ fives`: doubles while there is room, and else drops the remainder. -/
def giveFives : Nat → Scaled → Option Scaled
  | 0, s => some s
  | fives + 1, s =>
    if s.mantissa < 0x800000000000000000000000 then giveFives fives ⟨2 * s.mantissa, s.power - 1⟩
    else if ((fives + 1 : Nat) : Int) < 2 * s.power then none
    else giveFives fives { s with mantissa := s.mantissa / 5 }

/-- Multiplies a positive power of ten out. -/
def expand : Nat → Scaled → Option Scaled
  | 0, s => some s
  | steps + 1, s =>
    if 10 * s.mantissa < limit then expand steps ⟨10 * s.mantissa, s.power - 1⟩ else none

/-- A digit less, with a half rounded up. -/
def dropDigit (s : Scaled) : Scaled :=
  ⟨s.mantissa / 10 + (if 5 ≤ s.mantissa % 10 then 1 else 0), s.power + 1⟩

/-- Drops digits until the power of ten is no less than the least scale; what vanishes is zero. -/
def raise : Nat → Scaled → Scaled
  | 0, s => s
  | steps + 1, s =>
    if s.power < -(maxScale : Int) then
      if s.mantissa / 10 = 0 then ⟨0, 0⟩ else raise steps (dropDigit s)
    else s

/-- Drops the digits beyond the precision of floats. -/
def trimPrecision : Nat → Scaled → Scaled
  | 0, s => s
  | steps + 1, s =>
    if s.power < 0 ∧ 0x10000000000000 ≤ s.mantissa then trimPrecision steps (dropDigit s) else s

/-- The amount of a finite float that is not negative; `none` if it is too large. -/
def ofFinite? (x : Binary64.Finite) : Option Amount :=
  if x.mantissa = 0 then some zero
  else
    let power : Int := x.exponent - 1074
    let start : Scaled := ⟨x.mantissa, power⟩
    -- one of the two powers is zero, so only one of the steps does anything
    match giveFives power.toNat (takeFives (-power).toNat start) with
    | none => none
    | some s =>
      match expand s.power.toNat s with
      | none => none
      | some s =>
        let s := raise (-s.power).toNat s
        let s := trimPrecision (-s.power).toNat s
        some (normalized ⟨s.mantissa, (-s.power).toNat⟩)

/-! ### To floats -/

/-- The float of an amount: its whole part and its fraction are rounded apart, and their sum is
rounded to the places of the amount. -/
def toBinary64 (a : Amount) : Binary64 :=
  if a.scale = 0 then .ofNat a.mantissa
  else
    let whole := Binary64.ofNat (a.mantissa / Nat.pow 10 a.scale)
    let rest := Binary64.ofNat (a.mantissa % Nat.pow 10 a.scale)
    let fraction := rest.div (.ofNat (Nat.pow 10 a.scale))
    if fraction.eqv .zero then whole
    else
      let places := (Binary64.ofNat 10).pow a.scale
      (((whole.add fraction).mul places).round).div places

end Amount

end OrderDesk
