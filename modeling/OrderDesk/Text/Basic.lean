/-!
# Characters and numbers in text

A class of characters is a list of closed ranges of code points, ascending and apart. Hexadecimal
digits are read in either case; numbers in messages are written in lower case and bytes in paths in
upper case. An integer is written in decimal digits behind an optional sign. A plus sign is taken
everywhere, a minus sign only where numbers have a sign. A text is read from left to right, and the
first character that cannot stand there or leads out of range decides what is wrong with it.
-/

namespace OrderDesk.Text

/-! ### Classes of characters -/

/-- Whether a code point lies in one of the ranges. -/
def inRanges (ranges : List (Nat × Nat)) (n : Nat) : Bool :=
  ranges.any fun range => range.1 ≤ n && n ≤ range.2

/-! ### White space -/

/-- The characters with the property White_Space. -/
def blankRanges : List (Nat × Nat) :=
  [(0x09, 0x0D), (0x20, 0x20), (0x85, 0x85), (0xA0, 0xA0), (0x1680, 0x1680), (0x2000, 0x200A),
   (0x2028, 0x2029), (0x202F, 0x202F), (0x205F, 0x205F), (0x3000, 0x3000)]

def isBlank (c : Char) : Bool := inRanges blankRanges c.toNat

/-- The characters of a list without blanks at either end. -/
def trimmed (cs : List Char) : List Char :=
  ((cs.dropWhile isBlank).reverse.dropWhile isBlank).reverse

/-- A text without blanks at either end. -/
def trim (s : String) : String := String.ofList (trimmed s.toList)

/-! ### Hexadecimal digits -/

/-- The value of a digit, in either case. -/
def hexValue? (c : Char) : Option Nat :=
  if '0' ≤ c ∧ c ≤ '9' then some (c.toNat - 48)
  else if 'a' ≤ c ∧ c ≤ 'f' then some (c.toNat - 87)
  else if 'A' ≤ c ∧ c ≤ 'F' then some (c.toNat - 55)
  else none

/-- The digit of a value below sixteen, in upper case. -/
def upperHexDigit (n : Nat) : Char := Char.ofNat (if n < 10 then 48 + n else 55 + n)

/-- A number in lower-case digits. -/
def hexadecimal (n : Nat) : String := String.ofList (Nat.toDigits 16 n)

/-- Every digit is read back. -/
theorem hexValue?_upperHexDigit (n : Fin 16) : hexValue? (upperHexDigit n) = some n.val := by
  revert n
  decide

/-! ### Integers -/

/-- Why a text is no integer. -/
inductive IntegerFault where
  | empty
  | invalidDigit
  | tooLarge
  | tooSmall
deriving DecidableEq

def IntegerFault.message : IntegerFault → String
  | empty => "cannot parse integer from empty string"
  | invalidDigit => "invalid digit found in string"
  | tooLarge => "number too large to fit in target type"
  | tooSmall => "number too small to fit in target type"

/-- The value of digits, none of which may lead beyond `bound`. -/
def boundedDigits (bound : Nat) (beyond : IntegerFault) : Nat → List Char → Except IntegerFault Nat
  | n, [] => .ok n
  | n, c :: cs =>
    if c.isDigit then
      let n := 10 * n + (c.toNat - 48)
      if n ≤ bound then boundedDigits bound beyond n cs else .error beyond
    else .error .invalidDigit

/-- A natural number up to a bound. -/
def readNatural (bound : Nat) (text : List Char) : Except IntegerFault Nat :=
  match text with
  | [] => .error .empty
  | ['+'] => .error .invalidDigit
  | '+' :: cs => boundedDigits bound .tooLarge 0 cs
  | cs => boundedDigits bound .tooLarge 0 cs

/-- An integer of 64 bits with a sign. -/
def readInt64 (text : List Char) : Except IntegerFault Int :=
  match text with
  | ['-'] => .error .invalidDigit
  | '-' :: cs => (boundedDigits (0x8000000000000000) .tooSmall 0 cs).map fun n => -(n : Int)
  | cs => (readNatural (0x8000000000000000 - 1) cs).map fun n => (n : Int)

end OrderDesk.Text
