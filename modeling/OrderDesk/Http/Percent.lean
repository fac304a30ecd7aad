import OrderDesk.Text.Basic

/-!
# Percent encoding

A byte may stand in a path as a percent sign and two hexadecimal digits. A percent sign without
them stands for itself.
-/

namespace OrderDesk.Http

/-- The bytes of a text. -/
def utf8 (cs : List Char) : List UInt8 := cs.flatMap String.utf8EncodeChar

/-- The bytes that a text stands for. -/
def percentDecode : List Char → List UInt8
  | '%' :: a :: b :: cs =>
    match Text.hexValue? a, Text.hexValue? b with
    | some m, some n => .ofNat (16 * m + n) :: percentDecode cs
    | _, _ => utf8 ['%'] ++ percentDecode (a :: b :: cs)
  | c :: cs => utf8 [c] ++ percentDecode cs
  | [] => []

/-- The text that a percent-encoded text stands for, if its bytes are one. -/
def percentText? (cs : List Char) : Option String :=
  String.fromUTF8? ⟨(percentDecode cs).toArray⟩

/-- A byte as a percent sign and two digits. -/
def percentByte (b : UInt8) : List Char :=
  ['%', Text.upperHexDigit (b.toNat / 16), Text.upperHexDigit (b.toNat % 16)]

/-- Encodes the characters that do not stand for themselves. -/
def percentEncode (isPlain : Char → Bool) (cs : List Char) : List Char :=
  cs.flatMap fun c => if isPlain c then [c] else (utf8 [c]).flatMap percentByte

end OrderDesk.Http
