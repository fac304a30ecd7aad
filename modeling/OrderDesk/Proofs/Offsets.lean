import Mathlib.Tactic.Common
import OrderDesk.Proofs.Placeholders

/-! # One instant in several forms

An instant of whole milliseconds is told as a number of milliseconds, as universal time and as the
local time of any offset. All of these are read as the same instant, also where an offset moves the
time to another day or year.
-/

namespace OrderDesk

/-! ### Integers in text -/

namespace Text

/-- Digits add to a number, so a bound on the last value bounds all on the way. -/
theorem le_foldl_digits (cs : List Char) (n : Nat) :
    n ≤ cs.foldl (fun n c => 10 * n + (c.toNat - 48)) n := by
  induction cs generalizing n with
  | nil => exact Nat.le_refl _
  | cons c cs ih =>
      have hnext : n ≤ 10 * n + (c.toNat - 48) := by omega
      exact Nat.le_trans hnext (ih _)

theorem boundedDigits_eq_ok {bound n : Nat} {beyond : IntegerFault} {cs : List Char}
    (hdigits : ∀ c ∈ cs, c.isDigit = true)
    (hbound : cs.foldl (fun n c => 10 * n + (c.toNat - 48)) n ≤ bound) :
    boundedDigits bound beyond n cs = .ok (cs.foldl (fun n c => 10 * n + (c.toNat - 48)) n) := by
  induction cs generalizing n with
  | nil => rfl
  | cons c cs ih =>
      obtain ⟨hc, hcs⟩ := List.forall_mem_cons.mp hdigits
      have hnext : 10 * n + (c.toNat - 48) ≤ bound := Nat.le_trans (le_foldl_digits cs _) hbound
      rw [boundedDigits, if_pos hc]
      simp only [if_pos hnext]
      exact ih hcs hbound

theorem boundedDigits_toDigits {bound n : Nat} {beyond : IntegerFault} (h : n ≤ bound) :
    boundedDigits bound beyond 0 (Nat.toDigits 10 n) = .ok n := by
  have hvalue : (Nat.toDigits 10 n).foldl (fun n c => 10 * n + (c.toNat - 48)) 0 = n :=
    Nat.ofDigitChars_ten_toDigits
  have hdigits : ∀ c ∈ Nat.toDigits 10 n, c.isDigit = true :=
    fun c hc => Nat.isDigit_of_mem_toDigits (by decide) (by decide) hc
  rw [boundedDigits_eq_ok hdigits (by rwa [hvalue]), hvalue]

/-- Digits alone are read as a natural number, whatever stands for a sign. -/
theorem readInt64_toDigits {n : Nat} (h : n < 0x8000000000000000) :
    readInt64 (Nat.toDigits 10 n) = .ok n := by
  have hdigits : ∀ c ∈ Nat.toDigits 10 n, c.isDigit = true :=
    fun c hc => Nat.isDigit_of_mem_toDigits (by decide) (by decide) hc
  have hsign : '-' ∉ Nat.toDigits 10 n ∧ '+' ∉ Nat.toDigits 10 n :=
    ⟨fun hmem => absurd (hdigits _ hmem) (by decide),
      fun hmem => absurd (hdigits _ hmem) (by decide)⟩
  have hnatural : readNatural (0x8000000000000000 - 1) (Nat.toDigits 10 n) = .ok n := by
    have hbounded : boundedDigits (0x8000000000000000 - 1) .tooLarge 0 (Nat.toDigits 10 n) =
        .ok n := boundedDigits_toDigits (by omega)
    unfold readNatural
    split
    next hnil => exact absurd hnil Nat.toDigits_ne_nil
    next hplus => simp [hplus] at hsign
    next hplus => simp [hplus] at hsign
    next => exact hbounded
  unfold readInt64
  split
  next hminus => simp [hminus] at hsign
  next hminus => simp [hminus] at hsign
  next => rw [hnatural]; rfl

/-- An integer of 64 bits is read from its decimal text. -/
theorem readInt64_toString {n : Int} (hlow : -0x8000000000000000 ≤ n)
    (hhigh : n < 0x8000000000000000) : readInt64 (toString n).toList = .ok n := by
  rw [Int.toString_eq_repr, Int.repr_eq_if]
  split
  next hpos =>
    rw [Nat.toList_repr, readInt64_toDigits (by omega), Int.toNat_of_nonneg hpos]
  next hneg =>
    have hdigits : boundedDigits 0x8000000000000000 .tooSmall 0 (Nat.toDigits 10 (-n).toNat) =
        .ok (-n).toNat := boundedDigits_toDigits (by omega)
    have htext : ("-" ++ (-n).toNat.repr).toList = '-' :: Nat.toDigits 10 (-n).toNat := by
      simp [String.toList_append]
    rw [htext, readInt64, hdigits]
    · show Except.ok (-((-n).toNat : Int)) = .ok n
      rw [Int.toNat_of_nonneg (by omega), Int.neg_neg]
    · exact Nat.toDigits_ne_nil

end Text

namespace Calendar

/-! ### Days of four-digit years -/

/-- The days around those of a year from the second to the last with four digits. -/
theorem days_bounds_of_year {days : Int}
    (hyear : 2 ≤ (Date.ofDays days).year ∧ (Date.ofDays days).year ≤ 9999) :
    -719468 < days ∧ days < 2932957 := by
  have hday := yearOfDay_bounds (dayOfCycle_bounds (days + epochDay))
  rw [ofDays_eq_dateInYear] at hyear
  simp only [dateInYear] at hyear
  generalize hcycle : (days + epochDay) / cycleDays = cycle at hyear
  generalize hrest : (days + epochDay) % cycleDays = rest at hyear hday
  unfold epochDay cycleDays at hcycle hrest
  have hfirst : rest = 0 → yearOfDay rest = 0 := by
    rintro rfl
    rfl
  split at hyear <;> omega

theorem year_ofDays_nonneg {days : Int} (h : -719468 ≤ days) : 0 ≤ (Date.ofDays days).year := by
  have hday := yearOfDay_bounds (dayOfCycle_bounds (days + epochDay))
  have hcycle : 0 ≤ (days + epochDay) / cycleDays := by
    unfold epochDay cycleDays
    omega
  rw [ofDays_eq_dateInYear]
  simp only [dateInYear]
  split <;> omega

/-! ### Offsets -/

/-- An offset from universal time, by hours and minutes. -/
structure Offset where
  behind : Bool
  hours : Nat
  minutes : Nat
  hours_le : hours ≤ 23 := by decide
  minutes_le : minutes ≤ 59 := by decide

namespace Offset

variable (o : Offset)

def seconds : Int :=
  let amount : Int := (o.hours * 60 + o.minutes) * 60
  if o.behind then -amount else amount

/-- The sign, two digits of hours and two of minutes. -/
def text : String :=
  (if o.behind then "-" else "+") ++ padded 2 o.hours ++ ":" ++ padded 2 o.minutes

theorem seconds_bounds : -86400 < o.seconds ∧ o.seconds < 86400 ∧ o.seconds % 60 = 0 := by
  have hhours := o.hours_le
  have hminutes := o.minutes_le
  simp only [seconds]
  split <;> omega

theorem toList_text :
    o.text.toList = (if o.behind then '-' else '+') ::
      ((padded 2 o.hours).toList ++ ':' :: (padded 2 o.minutes).toList) := by
  have hmarks : "-".toList = ['-'] ∧ "+".toList = ['+'] ∧ ":".toList = [':'] := by decide
  cases hbehind : o.behind <;> simp [text, hbehind, hmarks]

/-- The name of an offset is read as the offset. -/
theorem offset?_text : offset? o.text.toList = some o.seconds := by
  have hhours := o.hours_le
  have hminutes := o.minutes_le
  have hlast := digits?_two (n := o.minutes) (by omega) []
  rw [List.append_nil] at hlast
  rw [toList_text]
  cases hbehind : o.behind <;>
    simp [offset?, digits?_two (n := o.hours) (by omega), expect?, hlast, hhours, hminutes,
      seconds, hbehind]

theorem isDigit_head?_text : ∀ c ∈ o.text.toList.head?, c.isDigit = false := by
  rw [toList_text]
  cases o.behind <;> simp

theorem isBlank_of_mem_text : ∀ c ∈ o.text.toList, Text.isBlank c = false := by
  have hdigits : ∀ n, ∀ c ∈ (padded 2 n).toList, Text.isBlank c = false :=
    fun n c hc => Text.isBlank_of_isDigit (isDigit_of_mem_padded hc)
  have hsign : Text.isBlank (if o.behind then '-' else '+') = false := by
    cases o.behind <;> decide
  rw [toList_text]
  simp only [List.forall_mem_cons, List.forall_mem_append]
  exact ⟨hsign, hdigits _, by decide, hdigits _⟩

end Offset

/-! ### Instants of whole milliseconds -/

namespace Instant

variable {n : Int}

/-- The instant of `n` milliseconds is there if its year is one of those that are told. -/
theorem ofMillis?_of_year
    (hyear : 2 ≤ (Date.ofDays (n / 86400000)).year ∧ (Date.ofDays (n / 86400000)).year ≤ 9999) :
    ∃ t : Instant, ofMillis? n = some t ∧ t.seconds = n / 1000 ∧
      t.nanos = (n % 1000).toNat * 1000000 := by
  have hdays := days_bounds_of_year hyear
  have hrange : firstSecond ≤ n / 1000 ∧ n / 1000 ≤ lastSecond := by
    unfold firstSecond lastSecond
    omega
  have hnanos : (n % 1000).toNat * 1000000 < 1000000000 := by omega
  exact ⟨_, dif_pos ⟨hrange, .inl hnanos⟩, rfl, rfl⟩

theorem truncated_of_millis {t : Instant} {millis : Nat} (h : t.nanos = millis * 1000000) :
    t.truncated = t := by
  have hnanos : t.nanos / 1000000 * 1000000 = t.nanos := by omega
  cases t
  simp only [truncated, Instant.mk.injEq, true_and]
  exact hnanos

/-- No offset leads out of the years with four digits at their lower end. -/
theorem localDate_year_nonneg {t : Instant} (hyear : 2 ≤ t.date.year ∧ t.date.year ≤ 9999)
    (o : Offset) : 0 ≤ (t.localDate o.seconds).year := by
  have hdays := days_bounds_of_year hyear
  have hoffset := o.seconds_bounds
  exact year_ofDays_nonneg (by omega)

end Instant

end Calendar

open Calendar (Date Instant Offset)

/-! ### Binding -/

variable {room : Json.Room} {t : Instant}

/-- There is room for one container inside another. -/
theorem exists_enter (hroom : ∀ limit ∈ room, 2 ≤ limit) :
    ∃ inner innermost : Json.Room, room.enter? = some inner ∧ inner.enter? = some innermost := by
  match room with
  | none => exact ⟨none, none, rfl, rfl⟩
  | some 0 | some 1 => exact absurd (hroom _ rfl) (by decide)
  | some (limit + 2) => exact ⟨some (limit + 1), some limit, rfl, rfl⟩

/-- Binding a written time gives its instant, unless that stands for a missing one. -/
theorem bindTime_eq_ok {d : Json.Draft} {time : WrittenTime}
    (hvalue : (d.value? room).isSome = true) (hform : WrittenTime.ofDraft? d = some time)
    (hinstant : time.instant? = .ok (some t)) (hplaceholder : t.isPlaceholder = false) :
    bindTime room d = .ok (some t) := by
  have hreadable : (d.value? room).isNone = false := by simpa using hvalue
  unfold bindTime
  split
  next => cases hform
  next => simp [hreadable, hform, hinstant, Option.filter, hplaceholder]

/-- A text is bound alike with and without a date around it. -/
theorem bindTime_text {s : String} (hroom : ∀ limit ∈ room, 2 ≤ limit)
    (hinstant : (WrittenTime.text s).instant? = .ok (some t))
    (hplaceholder : t.isPlaceholder = false) :
    bindTime room (.ofValue (.string s)) = .ok (some t) ∧
      bindTime room (.ofValue (.object [("$date", .string s)])) = .ok (some t) := by
  obtain ⟨inner, innermost, hinner, -⟩ := exists_enter hroom
  constructor
  · exact bindTime_eq_ok rfl rfl hinstant hplaceholder
  · refine bindTime_eq_ok ?_ rfl hinstant hplaceholder
    simp [Json.Draft.ofValue, Json.Draft.ofMembers, Json.Draft.ofMember, Json.Draft.value?,
      Json.Draft.memberValues?, Json.Draft.memberValue?, hinner]

theorem bindTime_millis {s : String} (hroom : ∀ limit ∈ room, 2 ≤ limit)
    (hinstant : (WrittenTime.millis s).instant? = .ok (some t))
    (hplaceholder : t.isPlaceholder = false) :
    bindTime room (.ofValue (.object [("$date", .object [("$numberLong", .string s)])])) =
      .ok (some t) := by
  obtain ⟨inner, innermost, hinner, hinnermost⟩ := exists_enter hroom
  refine bindTime_eq_ok ?_ rfl hinstant hplaceholder
  simp [Json.Draft.ofValue, Json.Draft.ofMembers, Json.Draft.ofMember, Json.Draft.value?,
    Json.Draft.memberValues?, Json.Draft.memberValue?, hinner, hinnermost]

/-- Where there is room for two containers, an instant of whole milliseconds is bound from their
number, from its own text, and from the text of its local time at every offset, as long as the local
year has four digits. -/
theorem bindTime_forms_agree (n : Int) (room : Json.Room) (hroom : ∀ limit ∈ room, 2 ≤ limit)
    (hn : n ≠ 0)
    (hyear : 2 ≤ (Date.ofDays (n / 86400000)).year ∧ (Date.ofDays (n / 86400000)).year ≤ 9999) :
    ∃ t : Instant, t.nanos < 1000000000 ∧ t.seconds * 1000000000 + t.nanos = n * 1000000 ∧
      bindTime room
        (.ofValue (.object [("$date", .object [("$numberLong", .string (toString n))])])) =
          .ok (some t) ∧
      bindTime room (.ofValue (.string (timeText (some t)))) = .ok (some t) ∧
      bindTime room (.ofValue (.object [("$date", .string (timeText (some t)))])) = .ok (some t) ∧
      ∀ o : Offset, (t.localDate o.seconds).year ≤ 9999 →
        bindTime room (.ofValue (.string (t.writeIn o.seconds o.text))) = .ok (some t) ∧
        bindTime room (.ofValue (.object [("$date", .string (t.writeIn o.seconds o.text))])) =
          .ok (some t) := by
  obtain ⟨t, ht, hseconds, hnanos⟩ := Instant.ofMillis?_of_year hyear
  have hdate : t.date = Date.ofDays (n / 86400000) := by
    rw [Instant.date, hseconds, Int.ediv_ediv_of_nonneg (by decide)]
    rfl
  rw [← hdate] at hyear
  have htruncated : t.truncated = t := Instant.truncated_of_millis hnanos
  have hplaceholder : t.isPlaceholder = false := by
    rw [Bool.eq_false_iff, Ne, isPlaceholder_iff]
    omega
  have hmillis : (WrittenTime.millis (toString n)).instant? = .ok (some t) := by
    have hdays := Calendar.days_bounds_of_year (hdate ▸ hyear)
    have hread := Text.readInt64_toString (n := n) (by omega) (by omega)
    simp only [WrittenTime.instant?, hread, ht]
  have htext : (WrittenTime.text t.write).instant? = .ok (some t) := by
    rw [instant?_write ⟨by omega, hyear.2⟩, htruncated]
  refine ⟨t, by omega, by omega, bindTime_millis hroom hmillis hplaceholder, ?_, ?_, ?_⟩
  · rw [timeText_of_not_isPlaceholder hplaceholder]
    exact (bindTime_text hroom htext hplaceholder).1
  · rw [timeText_of_not_isPlaceholder hplaceholder]
    exact (bindTime_text hroom htext hplaceholder).2
  · intro o hlocal
    have hzero := Instant.localDate_year_nonneg hyear o
    obtain ⟨-, -, hminutes⟩ := o.seconds_bounds
    have hinstant : (WrittenTime.text (t.writeIn o.seconds o.text)).instant? = .ok (some t) := by
      rw [instant?_writeIn ⟨hzero, hlocal⟩ hminutes o.isDigit_head?_text
        (fun c hc => o.isBlank_of_mem_text c (List.mem_of_getLast? hc)) o.offset?_text,
        htruncated]
    exact bindTime_text hroom hinstant hplaceholder

/-- The last millisecond of 1969 is one of 1970 where time is ahead. -/
theorem bindTime_forms_agree_new_year :
    ∃ t : Instant, t.seconds * 1000000000 + t.nanos = -1000000 ∧
      bindTime none (.string "1969-12-31T23:59:59.999Z") = .ok (some t) ∧
      bindTime none (.string "1970-01-01T05:29:59.999+05:30") = .ok (some t) := by
  obtain ⟨t, hnanos, hunits, -, htext, -, hlocal⟩ :=
    bindTime_forms_agree (-1) none (by simp) (by decide) (by decide)
  have hparts : t.seconds = -1 ∧ t.nanos = 999000000 := by omega
  obtain rfl : t = { seconds := -1, nanos := 999000000 } := by
    cases t
    simpa only [Instant.mk.injEq] using hparts
  have hname : Offset.text { behind := false, hours := 5, minutes := 30 } = "+05:30" := by
    decide +kernel
  have hwritten : timeText (some { seconds := -1, nanos := 999000000 }) =
      "1969-12-31T23:59:59.999Z" := by decide +kernel
  have hwrittenAhead : Instant.writeIn { seconds := -1, nanos := 999000000 } 19800 "+05:30" =
      "1970-01-01T05:29:59.999+05:30" := by decide +kernel
  obtain ⟨hahead, -⟩ := hlocal { behind := false, hours := 5, minutes := 30 } (by decide)
  rw [hname] at hahead
  exact ⟨_, hunits, hwritten ▸ htext, hwrittenAhead ▸ hahead⟩

end OrderDesk
