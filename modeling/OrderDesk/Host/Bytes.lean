import OrderDesk.FieldPath
import OrderDesk.Text.Basic

/-!
# Hosts of four bytes

Up to four numbers between points, the last of which fills the bytes that are left. A number is in
decimal, or in octal or hexadecimal behind a zero.
-/

namespace OrderDesk.Host

/-- The value of digits in a base. -/
def digits? (base : Nat) (cs : List Char) : Option Nat :=
  cs.foldl (fun n? c => do
    let n ← n?
    let d ← Text.hexValue? c
    if d < base then some (base * n + d) else none) (some 0)

def number? : List Char → Option Nat
  | [] => none
  | '0' :: 'x' :: cs | '0' :: 'X' :: cs => digits? 16 cs
  | '0' :: c :: cs => digits? 8 (c :: cs)
  | cs => digits? 10 cs

/-- The parts of a name, without an empty last one. -/
def labels (cs : List Char) : List (List Char) :=
  let parts := FieldPath.split '.' cs
  if 1 < parts.length && parts.getLast? = some [] then parts.dropLast else parts

/-- Whether a name has to be read as numbers: its last part is one. -/
def endsInNumber (cs : List Char) : Bool :=
  match (labels cs).getLast? with
  | none | some [] => false
  | some label => label.all Char.isDigit || (number? label).isSome

/-- The number that bytes form, the last one filling the places that are left. -/
def bytes? (cs : List Char) : Option Nat := do
  let parts ← (labels cs).mapM number?
  let last ← parts.getLast?
  let front := parts.dropLast
  let room := Nat.pow 256 (5 - parts.length)
  if 4 < parts.length || front.any (256 ≤ ·) || room ≤ last then none
  else some (room * front.foldl (fun n part => 256 * n + part) 0 + last)

def writeBytes (n : Nat) : String :=
  ".".intercalate ([24, 16, 8, 0].map fun shift => toString (n / Nat.pow 2 shift % 256))

end OrderDesk.Host
