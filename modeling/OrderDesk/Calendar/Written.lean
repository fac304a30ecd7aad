import OrderDesk.Calendar.Instant

/-!
# Written instants

The Internet date and time format: a date, a letter or a space, a time with or without a
fraction, and an offset. Reading takes any offset; writing gives universal time. A leap second is
written as second sixty.
-/

namespace OrderDesk.Calendar

/-! ### Reading -/

/-- A number of exactly so many digits, and what follows it. -/
def digits? (count : Nat) (cs : List Char) : Option (Nat × List Char) :=
  let taken := cs.take count
  if taken.length = count ∧ taken.all Char.isDigit then
    some (taken.foldl (fun n c => 10 * n + (c.toNat - 48)) 0, cs.drop count)
  else none

/-- What follows a character that has to stand here. -/
def expect? (p : Char → Bool) : List Char → Option (List Char)
  | c :: cs => if p c then some cs else none
  | [] => none

/-- Nanoseconds from the digits behind a point; digits beyond the ninth do not count. -/
def fraction? : List Char → Option (Nat × List Char)
  | '.' :: cs =>
    let digits := cs.takeWhile Char.isDigit
    if digits.isEmpty then none
    else
      let kept := digits.take 9
      let n := kept.foldl (fun n c => 10 * n + (c.toNat - 48)) 0
      some (n * Nat.pow 10 (9 - kept.length), cs.dropWhile Char.isDigit)
  | cs => some (0, cs)

/-- The offset from universal time in seconds, at the end of the text. A minus sign may stand for
the hyphen. -/
def offset? : List Char → Option Int
  | ['Z'] | ['z'] => some 0
  | sign :: cs => do
    let negative ← match sign with
      | '+' => some false
      | '-' | '−' => some true
      | _ => none
    let (hours, cs) ← digits? 2 cs
    let cs ← expect? (· = ':') cs
    let (minutes, cs) ← digits? 2 cs
    if cs.isEmpty && hours ≤ 23 && minutes ≤ 59 then
      let seconds : Int := (hours * 60 + minutes) * 60
      some (if negative then -seconds else seconds)
    else none
  | [] => none

/-- The instant that a text gives. -/
def Instant.read (text : List Char) : Option Instant := do
  let (year, cs) ← digits? 4 text
  let cs ← expect? (· = '-') cs
  let (month, cs) ← digits? 2 cs
  let cs ← expect? (· = '-') cs
  let (day, cs) ← digits? 2 cs
  let cs ← expect? (fun c => c = 'T' || c = 't' || c = ' ') cs
  let (hour, cs) ← digits? 2 cs
  let cs ← expect? (· = ':') cs
  let (minute, cs) ← digits? 2 cs
  let cs ← expect? (· = ':') cs
  let (second, cs) ← digits? 2 cs
  let (nanos, cs) ← fraction? cs
  let offset ← offset? cs
  let date : Date := ⟨year, month, day⟩
  if date.isValid && hour ≤ 23 && minute ≤ 59 && second ≤ 60 then
    let leap := second = 60
    let time := (hour * 60 + minute) * 60 + (if leap then 59 else second)
    Instant.of? (date.toDays * 86400 + time - offset) (nanos + if leap then 1000000000 else 0)
  else none

/-! ### Writing -/

/-- A number with zeros in front up to a width. -/
def padded (width n : Nat) : String :=
  let digits := toString n
  String.ofList (List.replicate (width - digits.length) '0') ++ digits

/-- Years of more than four digits have a sign. -/
def yearText (year : Int) : String :=
  if 0 ≤ year ∧ year ≤ 9999 then padded 4 year.toNat
  else (if year < 0 then "-" else "+") ++ padded 4 year.natAbs

def dateText (d : Date) : String :=
  yearText d.year ++ "-" ++ padded 2 d.month ++ "-" ++ padded 2 d.day

/-- The time of day to the second. -/
def clockText (t : Instant) : String :=
  let time := t.timeOfDay
  let second := time % 60 + (if 1000000000 ≤ t.nanos then 1 else 0)
  padded 2 (time / 3600) ++ ":" ++ padded 2 (time / 60 % 60) ++ ":" ++ padded 2 second

/-- Universal time with three digits of the second, the rest cut off. -/
def Instant.write (t : Instant) : String :=
  dateText t.date ++ "T" ++ clockText t ++ "." ++ padded 3 (t.nanos % 1000000000 / 1000000) ++ "Z"

/-- Universal time with as many digits of the second as there are without zeros at the end. -/
def Instant.writeShort (t : Instant) : String :=
  let digits := (padded 9 (t.nanos % 1000000000)).toList.reverse.dropWhile (· = '0')
  let fraction := if digits.isEmpty then "" else "." ++ String.ofList digits.reverse
  dateText t.date ++ "T" ++ clockText t ++ fraction ++ "Z"

end OrderDesk.Calendar
