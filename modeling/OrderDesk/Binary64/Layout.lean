import OrderDesk.Binary64.Shortest

/-!
# Writing numbers

The shortest decimal of a number is laid out either positionally or with an exponent. What a
format decides about this is one record, and each format states its own beside the text that it
writes.
-/

namespace OrderDesk.Binary64

/-- What a format decides about the text of a number. -/
structure Layout where
  /-- The exponents of the leading digit that are written positionally, the first included and
  the second not; `none` writes all of them so. -/
  positional : Option (Int × Int)
  /-- Whether a whole number in positional form ends in `.0`. -/
  pointZero : Bool
  /-- Whether a positive exponent has a sign. -/
  plusSign : Bool
  tie : Tie

/-- Digits in positional form, with the point after the first `point` of them. -/
def positionalText (pointZero : Bool) (digits : String) (point : Int) : String :=
  let count : Int := digits.length
  if point ≤ 0 then "0." ++ String.ofList (List.replicate (-point).toNat '0') ++ digits
  else if count ≤ point then
    digits ++ String.ofList (List.replicate (point - count).toNat '0') ++
      (if pointZero then ".0" else "")
  else
    String.ofList (digits.toList.take point.toNat) ++ "." ++
      String.ofList (digits.toList.drop point.toNat)

/-- Digits with an exponent, the point after the first of them. -/
def exponentText (plusSign : Bool) (digits : String) (exponent : Int) : String :=
  let fraction := String.ofList (digits.toList.drop 1)
  String.ofList (digits.toList.take 1) ++ (if fraction.isEmpty then "" else "." ++ fraction) ++
    "e" ++ (if plusSign && 0 ≤ exponent then "+" else "") ++ toString exponent

/-- The text of a finite number. -/
def Finite.write (layout : Layout) (x : Finite) : String :=
  let sign := if x.negative then "-" else ""
  if x.units = 0 then sign ++ (if layout.pointZero then "0.0" else "0")
  else
    let d := x.shortest layout.tie
    let digits := toString d.digits
    let point := d.scale + digits.length
    let plain := match layout.positional with
      | none => true
      | some (first, last) => first ≤ point - 1 && point - 1 < last
    sign ++ (if plain then positionalText layout.pointZero digits point
      else exponentText layout.plusSign digits (point - 1))

/-- The text of a number; what is not finite is spelt out. -/
def write (layout : Layout) : Binary64 → String
  | nan => "NaN"
  | infinite s => if s then "-inf" else "inf"
  | finite x => x.write layout

/-- Numbers in running text never have an exponent, and whole ones have no point. -/
def Layout.plain : Layout where
  positional := none
  pointZero := false
  plusSign := false
  tie := .awayFromZero

end OrderDesk.Binary64
