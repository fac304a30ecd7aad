/-!
# Punycode

A text of any characters in ASCII letters and digits: its ASCII characters, and then, for the
others in the order of their code points, how many steps lie between one and the next. A step goes
to the next place in the text, and after the last place to the next code point. The number of
steps is written in digits, the least one first, whose weights follow the size of the last number.
-/

namespace OrderDesk.Text.Punycode

/-- A digit below thirty-six. -/
def digit (n : Nat) : Char := Char.ofNat (if n < 26 then 97 + n else 22 + n)

def value? (c : Char) : Option Nat :=
  if 'a' ≤ c ∧ c ≤ 'z' then some (c.toNat - 97)
  else if 'A' ≤ c ∧ c ≤ 'Z' then some (c.toNat - 65)
  else if '0' ≤ c ∧ c ≤ '9' then some (c.toNat - 22)
  else none

/-! ### Numbers -/

/-- A digit below this one is the last of its number. -/
def threshold (bias place : Nat) : Nat := min 26 (max 1 (place - bias))

theorem threshold_bounds (bias place : Nat) :
    1 ≤ threshold bias place ∧ threshold bias place ≤ 26 := by
  unfold threshold
  omega

/-- The digits of a number from a place on. -/
def digits (bias place n : Nat) : List Char :=
  let t := threshold bias place
  if n < t then [digit n]
  else digit (t + (n - t) % (36 - t)) :: digits bias (place + 36) ((n - t) / (36 - t))
termination_by n
decreasing_by
  have := threshold_bounds bias place
  exact Nat.lt_of_le_of_lt (Nat.div_le_self _ _) (by omega)

/-- A number from a place on, where a digit has a weight, and what follows it. -/
def number? (bias : Nat) : Nat → Nat → List Char → Option (Nat × List Char)
  | _, _, [] => none
  | place, weight, c :: cs => do
    let d ← value? c
    let t := threshold bias place
    if d < t then some (d * weight, cs)
    else do
      let (n, rest) ← number? bias (place + 36) (weight * (36 - t)) cs
      some (d * weight + n, rest)

/-- The bias that a number leads to, given how many characters there are with the new one. -/
def adapted (n count : Nat) (first : Bool) : Nat :=
  let n := if first then n / 700 else n / 2
  shrunk 0 (n + n / count)
where
  shrunk (k n : Nat) : Nat :=
    if n ≤ 455 then k + 36 * n / (n + 38) else shrunk (k + 36) (n / 35)
  termination_by n
  decreasing_by omega

/-! ### Writing -/

/-- The steps since the last number, and what is written. -/
structure Writing where
  steps : Nat
  bias : Nat := 72
  count : Nat
  digits : List Char := []

/-- Passes the characters of a text, writing a number wherever a code point stands. -/
def Writing.pass (basic point : Nat) (w : Writing) (c : Char) : Writing :=
  if c.toNat < point then { w with steps := w.steps + 1 }
  else if c.toNat = point then
    { steps := 0
      bias := adapted w.steps (w.count + 1) (w.count = basic)
      count := w.count + 1
      digits := w.digits ++ Punycode.digits w.bias 36 w.steps }
  else w

/-- Writes the numbers of some code points, given the first one that is left. -/
def Writing.points (cs : List Char) (basic : Nat) : Nat → List Nat → Writing → Writing
  | _, [], w => w
  | next, point :: points, w =>
    let w := { w with steps := w.steps + (point - next) * (w.count + 1) }
    let w := cs.foldl (Writing.pass basic point) w
    Writing.points cs basic (point + 1) points { w with steps := w.steps + 1 }

def isBasic (c : Char) : Bool := c.toNat < 128

def encode (cs : List Char) : List Char :=
  let basic := cs.filter isBasic
  let points := ((cs.filter (!isBasic ·)).map Char.toNat).eraseDups.mergeSort
  let w := Writing.points cs basic.length 128 points { steps := 0, count := basic.length }
  basic ++ (if basic.isEmpty then [] else ['-']) ++ w.digits

/-! ### Reading -/

/-- Reads number after number and puts the characters in; each number takes a digit. -/
def inserted : Nat → Nat → Nat → Nat → List Char → List Char → Option (List Char)
  | _, _, _, _, text, [] => some text
  | 0, _, _, _, _, _ => none
  | fuel + 1, bias, point, place, text, cs => do
    let (n, rest) ← number? bias 36 1 cs
    let count := text.length + 1
    let point := point + (place + n) / count
    let place' := (place + n) % count
    if h : point.isValidChar then
      inserted fuel (adapted n count (place = 0)) point (place' + 1)
        (text.insertIdx place' (Char.ofNatAux point h)) rest
    else none

/-- A text, whose ASCII characters are followed by a hyphen if there are any. -/
def decode? (cs : List Char) : Option (List Char) :=
  let back := cs.reverse
  let digits := (back.takeWhile (· ≠ '-')).reverse
  let basic := (back.drop (digits.length + 1)).reverse
  if basic.isEmpty && cs.contains '-' then none
  else inserted digits.length 72 128 0 basic digits

end OrderDesk.Text.Punycode
