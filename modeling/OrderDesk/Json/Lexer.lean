import OrderDesk.Json.Basic
import OrderDesk.Text.Basic

/-!
# Tokens of JSON text

A text is cut into tokens up to the first place where no token starts. A number beyond the range
of floats and a string with half of a surrogate pair are tokens like any other, but stand for no
value: they may be passed over and not be read.
-/

namespace OrderDesk.Json

/-- A value without parts, as far as text gives it. -/
inductive Scalar where
  | null
  | boolean (b : Bool)
  | number (n : Number)
  | string (s : String)
  | unreadable

inductive Token where
  | scalar (s : Scalar)
  | openArray
  | closeArray
  | openObject
  | closeObject
  | comma
  | colon
  | broken

/-! ### Numbers -/

/-- The value of decimal digits. -/
def digitsValue (digits : List Char) : Nat :=
  digits.foldl (fun n c => 10 * n + (c.toNat - 48)) 0

/-- The digits of a number that are kept: as many as 64 bits hold. -/
structure Significand where
  digits : Nat
  /-- The power of ten that the kept digits have to be scaled by. -/
  scale : Int

namespace Significand

/-- Keeps a digit if there is room for it. -/
def push? (digits : Nat) (c : Char) : Option Nat :=
  let n := 10 * digits + (c.toNat - 48)
  if n < 0x10000000000000000 then some n else none

/-- Integer digits: from the first one without room, each counts for a factor of ten. -/
def whole (digits : Nat) : List Char → Significand
  | [] => ⟨digits, 0⟩
  | c :: cs =>
    match push? digits c with
    | some n => whole n cs
    | none => ⟨digits, (c :: cs).length⟩

/-- Fraction digits: from the first one without room, none counts. -/
def fraction (s : Significand) : List Char → Significand
  | [] => s
  | c :: cs =>
    match push? s.digits c with
    | some n => fraction ⟨n, s.scale - 1⟩ cs
    | none => s

end Significand

/-- Scales a float by a power of ten, by one product or quotient where the power is a float;
`none` if the result is too large. -/
def scaleByTen (x : Binary64) (power : Int) : Option Binary64 := go 6 x power
where
  /-- Brings a very small power into range step by step. -/
  go : Nat → Binary64 → Int → Option Binary64
    | 0, x, _ => some x
    | fuel + 1, x, power =>
      if power.natAbs ≤ 308 then
        let ten := Binary64.ofNat (Nat.pow 10 power.natAbs)
        let scaled := if 0 ≤ power then x.mul ten else x.div ten
        if scaled.isFinite then some scaled else none
      else if x.eqv .zero then some x
      else if 0 ≤ power then none
      else go fuel (x.div (.ofNat (Nat.pow 10 308))) (power + 308)

/-- A float from its kept digits. -/
def floatOf (negative : Bool) (s : Significand) : Scalar :=
  match scaleByTen (.ofNat s.digits) s.scale with
  | some (.finite x) => .number (.float { x with negative })
  | _ => .unreadable

/-- A number without fraction and exponent: a float if it has no integer. -/
def wholeOf (negative : Bool) (digits : List Char) : Scalar :=
  let n := digitsValue digits
  if negative then
    if h : -0x8000000000000000 ≤ -(n : Int) ∧ -(n : Int) < 0 then .number (.negative (-n) h)
    else floatOf true (.whole 0 digits)
  else if n < 0x10000000000000000 then .number (.natural n)
  else floatOf false (.whole 0 digits)

def spanDigits (cs : List Char) : List Char × List Char :=
  (cs.takeWhile Char.isDigit, cs.dropWhile Char.isDigit)

/-- The exponent after its mark, if digits follow. -/
def exponent? (cs : List Char) : Option (Int × List Char) :=
  let (negative, cs) := match cs with
    | '+' :: cs => (false, cs)
    | '-' :: cs => (true, cs)
    | cs => (false, cs)
  let (digits, rest) := spanDigits cs
  if digits.isEmpty then none
  else
    let n : Int := digitsValue digits
    some (if negative then -n else n, rest)

/-- A number behind its sign. No zero stands before other digits, and a point stands between
digits. -/
def number? (negative : Bool) (cs : List Char) : Option (Scalar × List Char) :=
  let (digits, rest) := spanDigits cs
  if digits.isEmpty || (digits.head? = some '0' && 1 < digits.length) then none
  else
    let whole := Significand.whole 0 digits
    let withExponent (s : Significand) (rest : List Char) : Option (Scalar × List Char) :=
      match rest with
      | 'e' :: rest | 'E' :: rest =>
        (exponent? rest).map fun (power, rest) =>
          (floatOf negative { s with scale := s.scale + power }, rest)
      | rest => some (floatOf negative s, rest)
    match rest with
    | '.' :: rest =>
      let (digits, rest) := spanDigits rest
      if digits.isEmpty then none else withExponent (whole.fraction digits) rest
    | 'e' :: _ | 'E' :: _ => withExponent whole rest
    | rest => some (wholeOf negative digits, rest)

/-! ### Strings -/

/-- The 16-bit unit that four hexadecimal digits spell. -/
def unit? (a b c d : Char) : Option Nat := do
  let high := (← Text.hexValue? a) * 16 + (← Text.hexValue? b)
  let low := (← Text.hexValue? c) * 16 + (← Text.hexValue? d)
  return high * 256 + low

def isHighUnit (n : Nat) : Bool := 0xD800 ≤ n && n < 0xDC00

def isLowUnit (n : Nat) : Bool := 0xDC00 ≤ n && n < 0xE000

/-- The character behind a backslash, other than by number. -/
def escaped? : Char → Option Char
  | '"' => some '"'
  | '\\' => some '\\'
  | '/' => some '/'
  | 'b' => some '\x08'
  | 'f' => some '\x0c'
  | 'n' => some '\n'
  | 'r' => some '\r'
  | 't' => some '\t'
  | _ => none

/-- A piece of a string: a character, or a unit that was written by number. -/
inductive Piece where
  | char (c : Char)
  | unit (n : Nat)

/-- The pieces up to the closing quote, and what follows it. -/
def pieces? : List Char → Option (List Piece × List Char)
  | [] => none
  | '"' :: rest => some ([], rest)
  | '\\' :: 'u' :: a :: b :: c :: d :: rest => do
    let n ← unit? a b c d
    let (pieces, rest) ← pieces? rest
    return (.unit n :: pieces, rest)
  | '\\' :: e :: rest => do
    let c ← escaped? e
    let (pieces, rest) ← pieces? rest
    return (.char c :: pieces, rest)
  | c :: rest => do
    if c.toNat < 32 then none
    else
      let (pieces, rest) ← pieces? rest
      return (.char c :: pieces, rest)

/-- The text of pieces, unless half of a surrogate pair is among them. -/
def join? : List Piece → Option (List Char)
  | [] => some []
  | .char c :: rest => (join? rest).map (c :: ·)
  | .unit h :: .unit l :: rest =>
    if isHighUnit h && isLowUnit l then
      (join? rest).map (Char.ofNat (0x10000 + (h - 0xD800) * 0x400 + (l - 0xDC00)) :: ·)
    else if isHighUnit h || isLowUnit h then none
    else (join? (.unit l :: rest)).map (Char.ofNat h :: ·)
  | .unit n :: rest =>
    if isHighUnit n || isLowUnit n then none else (join? rest).map (Char.ofNat n :: ·)

def string? (cs : List Char) : Option (Scalar × List Char) := do
  let (pieces, rest) ← pieces? cs
  match join? pieces with
  | some text => return (.string (String.ofList text), rest)
  | none => return (.unreadable, rest)

/-! ### Tokens -/

def isBlank (c : Char) : Bool := c = ' ' || c = '\n' || c = '\t' || c = '\r'

/-- The token at the start of a text, and what follows it. -/
def token : List Char → Token × List Char
  | '[' :: rest => (.openArray, rest)
  | ']' :: rest => (.closeArray, rest)
  | '{' :: rest => (.openObject, rest)
  | '}' :: rest => (.closeObject, rest)
  | ',' :: rest => (.comma, rest)
  | ':' :: rest => (.colon, rest)
  | 'n' :: 'u' :: 'l' :: 'l' :: rest => (.scalar .null, rest)
  | 't' :: 'r' :: 'u' :: 'e' :: rest => (.scalar (.boolean true), rest)
  | 'f' :: 'a' :: 'l' :: 's' :: 'e' :: rest => (.scalar (.boolean false), rest)
  | '"' :: rest => scalarOr (string? rest)
  | '-' :: rest => scalarOr (number? true rest)
  | rest => scalarOr (number? false rest)
where
  /-- A scalar, or the end of what can be read. -/
  scalarOr : Option (Scalar × List Char) → Token × List Char
    | some (s, rest) => (.scalar s, rest)
    | none => (.broken, [])

/-- The tokens of a text. Nothing is read behind a broken one. -/
def tokens (text : List Char) : List Token := go text.length text
where
  /-- Reads at most one token a step; each takes at least one character. -/
  go : Nat → List Char → List Token
    | 0, _ => []
    | fuel + 1, text =>
      match text.dropWhile isBlank with
      | [] => []
      | text =>
        match token text with
        | (.broken, _) => [.broken]
        | (t, rest) => t :: go fuel rest

end OrderDesk.Json
