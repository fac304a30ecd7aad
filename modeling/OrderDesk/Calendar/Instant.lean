import OrderDesk.Calendar.Date

/-!
# Instants

A point in time, as whole seconds since the epoch and nanoseconds within the second. In a leap
second, which is the last of a minute, the nanoseconds go on to two thousand million.
-/

namespace OrderDesk.Calendar

/-- The first second of the year -262143. -/
def firstSecond : Int := -8334601228800

/-- The last second of the year 262142. -/
def lastSecond : Int := 8210266876799

structure Instant where
  seconds : Int
  nanos : Nat
  inRange : firstSecond ≤ seconds ∧ seconds ≤ lastSecond := by decide
  subsecond : nanos < 1000000000 ∨ (nanos < 2 * 1000000000 ∧ seconds % 60 = 59) := by decide
deriving DecidableEq

namespace Instant

def epoch : Instant where
  seconds := 0
  nanos := 0

instance : Inhabited Instant := ⟨epoch⟩

/-- The instant with these parts, if there is one. -/
def of? (seconds : Int) (nanos : Nat) : Option Instant :=
  if h : (firstSecond ≤ seconds ∧ seconds ≤ lastSecond) ∧
      (nanos < 1000000000 ∨ (nanos < 2 * 1000000000 ∧ seconds % 60 = 59)) then
    some { seconds, nanos, inRange := h.1, subsecond := h.2 }
  else none

/-- The instant some milliseconds after the epoch, if it is in range. -/
def ofMillis? (millis : Int) : Option Instant :=
  of? (millis / 1000) ((millis % 1000).toNat * 1000000)

def date (t : Instant) : Date := .ofDays (t.seconds / 86400)

/-- The seconds since midnight. -/
def timeOfDay (t : Instant) : Nat := (t.seconds % 86400).toNat

end Instant

end OrderDesk.Calendar
