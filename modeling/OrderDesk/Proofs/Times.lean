import Mathlib.Data.List.Basic
import Mathlib.Tactic.Common
import OrderDesk.Order.Binding
import OrderDesk.Order.Written
import OrderDesk.Proofs.Dates

/-! # Written times read back

A time of the years that four digits name is read back from its text up to the millisecond, leap
seconds included. An order's times are such times, so what an order's JSON form says of them is
exactly what a reader of it gets.
-/

namespace OrderDesk.Calendar

/-! ### Numbers of fixed width -/

theorem toList_padded (width n : Nat) :
    (padded width n).toList =
      List.replicate (width - (Nat.toDigits 10 n).length) '0' ++ Nat.toDigits 10 n := by
  simp [padded, Nat.repr_eq_ofList_toDigits]

theorem length_padded {width n : Nat} (hwidth : 0 < width) (hn : n < Nat.pow 10 width) :
    (padded width n).toList.length = width := by
  have hle : (Nat.toDigits 10 n).length ≤ width :=
    (Nat.length_toDigits_le_iff (by decide) hwidth).mpr hn
  rw [toList_padded, List.length_append, List.length_replicate]
  omega

theorem isDigit_of_mem_padded {width n : Nat} {c : Char} (hc : c ∈ (padded width n).toList) :
    c.isDigit = true := by
  rw [toList_padded, List.mem_append] at hc
  rcases hc with hzero | hdigit
  · rw [List.eq_of_mem_replicate hzero]
    rfl
  · exact Nat.isDigit_of_mem_toDigits (by decide) (by decide) hdigit

/-- Digits stand for the number that they were made from. -/
theorem foldl_padded (width n : Nat) :
    (padded width n).toList.foldl (fun n c => 10 * n + (c.toNat - 48)) 0 = n := by
  have hfold := Nat.ofDigitChars_append (b := 10)
    (l := List.replicate (width - (Nat.toDigits 10 n).length) '0') (m := Nat.toDigits 10 n) 0
  rw [Nat.ofDigitChars_replicate_zero, Nat.mul_zero, Nat.ofDigitChars_ten_toDigits,
    ← toList_padded] at hfold
  exact hfold

/-- A number of fixed width is read from the front of a text. -/
theorem digits?_padded {width n : Nat} (hwidth : 0 < width) (hn : n < Nat.pow 10 width)
    (rest : List Char) :
    digits? width ((padded width n).toList ++ rest) = some (n, rest) := by
  have hlength := length_padded hwidth hn
  have htake : ((padded width n).toList ++ rest).take width = (padded width n).toList := by
    rw [List.take_append_of_le_length (by omega), List.take_of_length_le (by omega)]
  have hdrop : ((padded width n).toList ++ rest).drop width = rest := by
    rw [List.drop_append_of_le_length (by omega), List.drop_of_length_le (by omega),
      List.nil_append]
  have hall : (padded width n).toList.all Char.isDigit = true :=
    List.all_eq_true.mpr fun c hc => isDigit_of_mem_padded hc
  simp only [digits?, htake, hdrop, hlength, hall, foldl_padded, and_self, if_true]

theorem digits?_two {n : Nat} (hn : n < 100) (rest : List Char) :
    digits? 2 ((padded 2 n).toList ++ rest) = some (n, rest) :=
  digits?_padded (by decide) hn rest

theorem digits?_four {n : Nat} (hn : n < 10000) (rest : List Char) :
    digits? 4 ((padded 4 n).toList ++ rest) = some (n, rest) :=
  digits?_padded (by decide) hn rest

/-- Three digits behind a point are milliseconds. -/
theorem fraction?_padded {n : Nat} (hn : n < 1000) (rest : List Char)
    (hrest : ∀ c ∈ rest.head?, c.isDigit = false) :
    fraction? ('.' :: ((padded 3 n).toList ++ rest)) = some (n * 1000000, rest) := by
  have hlength : (padded 3 n).toList.length = 3 := length_padded (by decide) hn
  have hdigits : ∀ c ∈ (padded 3 n).toList, c.isDigit = true :=
    fun c hc => isDigit_of_mem_padded hc
  have hnone : rest.takeWhile Char.isDigit = [] ∧ rest.dropWhile Char.isDigit = rest := by
    cases rest with
    | nil => exact ⟨rfl, rfl⟩
    | cons c cs => simp [hrest c rfl]
  have htake : ((padded 3 n).toList ++ rest).takeWhile Char.isDigit = (padded 3 n).toList := by
    rw [List.takeWhile_append_of_pos hdigits, hnone.1, List.append_nil]
  have hdrop : ((padded 3 n).toList ++ rest).dropWhile Char.isDigit = rest := by
    rw [List.dropWhile_append_of_pos hdigits, hnone.2]
  have hne : (padded 3 n).toList.isEmpty = false := by
    cases hlist : (padded 3 n).toList with
    | nil => simp [hlist] at hlength
    | cons c cs => rfl
  have hkept : (padded 3 n).toList.take 9 = (padded 3 n).toList :=
    List.take_of_length_le (by omega)
  simp only [fraction?, htake, hdrop, hne, hkept, hlength, foldl_padded, Bool.false_eq_true,
    if_false]

/-! ### Instants -/

namespace Instant

/-- The instant up to its last whole millisecond. -/
def truncated (t : Instant) : Instant :=
  { t with
    nanos := t.nanos / 1000000 * 1000000
    subsecond := by have := t.subsecond; omega }

/-- Between the first second after the epoch and the end of the year 9999. -/
structure IsCurrent (t : Instant) : Prop where
  afterEpoch : 1 ≤ t.seconds
  year_le : t.date.year ≤ 9999

@[simp] theorem seconds_truncated (t : Instant) : t.truncated.seconds = t.seconds := rfl

@[simp] theorem date_truncated (t : Instant) : t.truncated.date = t.date := rfl

theorem IsCurrent.truncated {t : Instant} (h : t.IsCurrent) : t.truncated.IsCurrent :=
  ⟨h.afterEpoch, h.year_le⟩

theorem IsCurrent.year_ge {t : Instant} (h : t.IsCurrent) : 1600 ≤ t.date.year :=
  year_ofDays_ge (by have := h.afterEpoch; omega)

theorem IsCurrent.not_isPlaceholder {t : Instant} (h : t.IsCurrent) : t.isPlaceholder = false := by
  have hafter := h.afterEpoch
  have hyear := h.year_ge
  simp only [isPlaceholder, Bool.or_eq_false_iff, Bool.and_eq_false_iff, decide_eq_false_iff_not]
  omega

/-- The text of a time does not tell its last six digits. -/
theorem write_truncated (t : Instant) : t.truncated.write = t.write := by
  have hleap : (1000000000 ≤ t.nanos / 1000000 * 1000000) = (1000000000 ≤ t.nanos) :=
    propext (by omega)
  have hmillis : t.nanos / 1000000 * 1000000 % 1000000000 / 1000000 =
      t.nanos % 1000000000 / 1000000 := by omega
  simp only [write, clockText, timeOfDay, date_truncated, seconds_truncated]
  simp only [truncated, hleap, hmillis]

/-! ### Local times -/

/-- The date in local time of an offset. -/
def localDate (t : Instant) (offset : Int) : Date := .ofDays ((t.seconds + offset) / 86400)

/-- The seconds since midnight in local time of an offset. -/
def localTime (t : Instant) (offset : Int) : Nat := ((t.seconds + offset) % 86400).toNat

/-- Local time of an offset with three digits of the second, and the name of the offset. -/
def writeIn (t : Instant) (offset : Int) (zone : String) : String :=
  let time := t.localTime offset
  let second := time % 60 + (if 1000000000 ≤ t.nanos then 1 else 0)
  dateText (t.localDate offset) ++ "T" ++
    (padded 2 (time / 3600) ++ ":" ++ padded 2 (time / 60 % 60) ++ ":" ++ padded 2 second) ++
    "." ++ padded 3 (t.nanos % 1000000000 / 1000000) ++ zone

theorem localDate_zero (t : Instant) : t.localDate 0 = t.date := by
  rw [localDate, Int.add_zero, date]

theorem write_eq_writeIn (t : Instant) : t.write = t.writeIn 0 "Z" := by
  simp only [write, writeIn, clockText, localDate, localTime, date, timeOfDay, Int.add_zero]

variable {t : Instant} {offset : Int} {zone : String}

theorem toList_writeIn (zone : String)
    (hyear : 0 ≤ (t.localDate offset).year ∧ (t.localDate offset).year ≤ 9999) :
    (t.writeIn offset zone).toList =
      (padded 4 (t.localDate offset).year.toNat).toList ++ '-' ::
        ((padded 2 (t.localDate offset).month).toList ++ '-' ::
          ((padded 2 (t.localDate offset).day).toList ++ 'T' ::
            ((padded 2 (t.localTime offset / 3600)).toList ++ ':' ::
              ((padded 2 (t.localTime offset / 60 % 60)).toList ++ ':' ::
                ((padded 2 (t.localTime offset % 60 +
                    if 1000000000 ≤ t.nanos then 1 else 0)).toList ++ '.' ::
                  ((padded 3 (t.nanos % 1000000000 / 1000000)).toList ++ zone.toList)))))) := by
  have hmarks : "-".toList = ['-'] ∧ "T".toList = ['T'] ∧ ":".toList = [':'] ∧
      ".".toList = ['.'] := by decide
  simp only [writeIn, dateText, yearText, if_pos hyear, String.toList_append,
    List.append_assoc, hmarks, List.cons_append, List.nil_append]

/-- Parts of a time read back from their digits. -/
theorem read_padded {year month day hour minute second millis : Nat} {zone : List Char}
    (hyear : year < 10000)
    (hvalid : (⟨year, month, day⟩ : Date).isValid = true) (hhour : hour ≤ 23)
    (hminute : minute ≤ 59) (hsecond : second ≤ 60) (hmillis : millis < 1000)
    (hzone : ∀ c ∈ zone.head?, c.isDigit = false) (hoffset : offset? zone = some offset) :
    Instant.read ((padded 4 year).toList ++ '-' :: ((padded 2 month).toList ++ '-' ::
      ((padded 2 day).toList ++ 'T' :: ((padded 2 hour).toList ++ ':' ::
        ((padded 2 minute).toList ++ ':' :: ((padded 2 second).toList ++ '.' ::
          ((padded 3 millis).toList ++ zone))))))) =
      Instant.of? ((⟨year, month, day⟩ : Date).toDays * 86400 +
          ((hour * 60 + minute) * 60 + (if second = 60 then 59 else second) : Nat) - offset)
        (millis * 1000000 + if second = 60 then 1000000000 else 0) := by
  have hbounds := Date.isValid_bounds hvalid
  simp only at hbounds
  have hhyphen : ∀ cs, expect? (· = '-') ('-' :: cs) = some cs := fun _ => rfl
  have hletter : ∀ cs, expect? (fun c => c = 'T' || c = 't' || c = ' ') ('T' :: cs) = some cs :=
    fun _ => rfl
  have hcolon : ∀ cs, expect? (· = ':') (':' :: cs) = some cs := fun _ => rfl
  simp only [Instant.read, Option.bind_eq_bind, Option.bind_some, hhyphen, hletter, hcolon,
    digits?_four hyear, digits?_two (n := month) (by omega), digits?_two (n := day) (by omega),
    digits?_two (n := hour) (by omega), digits?_two (n := minute) (by omega),
    digits?_two (n := second) (by omega), fraction?_padded hmillis _ hzone, hoffset, hvalid,
    Bool.true_and]
  rw [if_pos (by simp only [Bool.and_eq_true, decide_eq_true_eq]; omega)]

/-- Local time of an offset of whole minutes reads back up to the millisecond. -/
theorem read_writeIn
    (hyear : 0 ≤ (t.localDate offset).year ∧ (t.localDate offset).year ≤ 9999)
    (hminutes : offset % 60 = 0) (hzone : ∀ c ∈ zone.toList.head?, c.isDigit = false)
    (hoffset : offset? zone.toList = some offset) :
    Instant.read (t.writeIn offset zone).toList = some t.truncated := by
  have hdays : (t.localDate offset).toDays = (t.seconds + offset) / 86400 := toDays_ofDays _
  have hsame : (⟨((t.localDate offset).year.toNat : Int), (t.localDate offset).month,
      (t.localDate offset).day⟩ : Date) = t.localDate offset := by
    rw [Int.toNat_of_nonneg hyear.1]
  have hvalid : (⟨((t.localDate offset).year.toNat : Int), (t.localDate offset).month,
      (t.localDate offset).day⟩ : Date).isValid = true := by
    rw [hsame]
    exact isValid_ofDays _
  have htime : (t.localTime offset : Int) = (t.seconds + offset) % 86400 ∧
      t.localTime offset < 86400 := by
    unfold localTime
    omega
  have hsub := t.subsecond
  rw [toList_writeIn zone hyear]
  generalize t.localTime offset = time at htime ⊢
  -- second sixty is a leap second, and only a leap second has nanoseconds beyond the first 10 ^ 9
  generalize hsecond : time % 60 + (if 1000000000 ≤ t.nanos then 1 else 0) = second
  have hsecond60 : second ≤ 60 ∧ (second = 60 ↔ 1000000000 ≤ t.nanos) := by
    split at hsecond <;> omega
  have hread := read_padded (by omega) hvalid (by omega : time / 3600 ≤ 23)
    (by omega : time / 60 % 60 ≤ 59) hsecond60.1
    (by omega : t.nanos % 1000000000 / 1000000 < 1000) hzone hoffset
  rw [hread, hsame, hdays]
  have hseconds : (t.seconds + offset) / 86400 * 86400 +
      ((time / 3600 * 60 + time / 60 % 60) * 60 +
        (if second = 60 then 59 else second) : Nat) - offset = t.seconds := by
    split <;> split at hsecond <;> omega
  have hnanos : t.nanos % 1000000000 / 1000000 * 1000000 +
      (if second = 60 then 1000000000 else 0) = t.truncated.nanos := by
    simp only [truncated]
    split <;> omega
  rw [hseconds, hnanos]
  exact dif_pos ⟨t.truncated.inRange, t.truncated.subsecond⟩

/-- A time reads back from its text up to the millisecond. -/
theorem read_write {t : Instant} (hyear : 0 ≤ t.date.year ∧ t.date.year ≤ 9999) :
    Instant.read t.write.toList = some t.truncated := by
  rw [write_eq_writeIn]
  rw [← localDate_zero] at hyear
  refine read_writeIn hyear (by decide) ?_ rfl
  rintro c ⟨⟩
  rfl

end Instant

end OrderDesk.Calendar

namespace OrderDesk

open Calendar (Instant)

/-! ### Texts of optional times -/

theorem Text.trimmed_eq_self {cs : List Char} (hfirst : ∀ c ∈ cs.head?, isBlank c = false)
    (hlast : ∀ c ∈ cs.getLast?, isBlank c = false) : trimmed cs = cs := by
  have hkeep : ∀ l : List Char, (∀ c ∈ l.head?, isBlank c = false) → l.dropWhile isBlank = l := by
    intro l hl
    cases l with
    | nil => rfl
    | cons c l => simp [hl c rfl]
  have hreverse : cs.reverse.dropWhile isBlank = cs.reverse :=
    hkeep _ (by rw [List.head?_reverse]; exact hlast)
  rw [trimmed, hkeep cs hfirst, hreverse, List.reverse_reverse]

theorem Text.isBlank_of_isDigit {c : Char} (h : c.isDigit = true) : isBlank c = false := by
  have hbounds : 48 ≤ c.toNat ∧ c.toNat ≤ 57 := by
    simpa [Char.isDigit, UInt32.le_iff_toNat_le] using h
  simp only [isBlank, inRanges, blankRanges, List.any_cons, List.any_nil, Bool.or_eq_false_iff,
    Bool.and_eq_false_iff, decide_eq_false_iff_not, and_true]
  omega

section Writing

variable {t : Instant} {offset : Int} {zone : String}

/-- A written local time is a digit, then more, and the name of the offset. -/
theorem exists_toList_writeIn (zone : String)
    (hyear : 0 ≤ (t.localDate offset).year ∧ (t.localDate offset).year ≤ 9999) :
    ∃ c cs, (t.writeIn offset zone).toList = c :: (cs ++ zone.toList) ∧ c.isDigit = true := by
  have hlength : (Calendar.padded 4 (t.localDate offset).year.toNat).toList.length = 4 :=
    Calendar.length_padded (by decide) (by show _ < 10000; omega)
  have hdigits : ∀ c ∈ (Calendar.padded 4 (t.localDate offset).year.toNat).toList,
      c.isDigit = true := fun c hc => Calendar.isDigit_of_mem_padded hc
  have htext := Instant.toList_writeIn zone hyear
  cases hlist : (Calendar.padded 4 (t.localDate offset).year.toNat).toList with
  | nil => rw [hlist] at hlength; cases hlength
  | cons c cs =>
      rw [hlist] at htext hdigits
      simp only [← List.append_assoc, ← List.cons_append] at htext
      exact ⟨c, _, htext, hdigits c List.mem_cons_self⟩

theorem trimmed_writeIn
    (hyear : 0 ≤ (t.localDate offset).year ∧ (t.localDate offset).year ≤ 9999)
    (hzone : zone.toList ≠ []) (hlast : ∀ c ∈ zone.toList.getLast?, Text.isBlank c = false) :
    Text.trimmed (t.writeIn offset zone).toList = (t.writeIn offset zone).toList := by
  obtain ⟨c, cs, hlist, hdigit⟩ := exists_toList_writeIn zone hyear
  rw [hlist]
  apply Text.trimmed_eq_self
  · intro d hd
    obtain rfl : c = d := by simpa using hd
    exact Text.isBlank_of_isDigit hdigit
  · intro d hd
    rw [← List.cons_append, List.getLast?_append_of_ne_nil _ hzone] at hd
    exact hlast d hd

/-- A written local time is the instant that it is read as. -/
theorem instant?_writeIn
    (hyear : 0 ≤ (t.localDate offset).year ∧ (t.localDate offset).year ≤ 9999)
    (hminutes : offset % 60 = 0) (hfirst : ∀ c ∈ zone.toList.head?, c.isDigit = false)
    (hlast : ∀ c ∈ zone.toList.getLast?, Text.isBlank c = false)
    (hoffset : Calendar.offset? zone.toList = some offset) :
    (WrittenTime.text (t.writeIn offset zone)).instant? = .ok (some t.truncated) := by
  have hzone : zone.toList ≠ [] := by
    intro hnil
    rw [hnil] at hoffset
    cases hoffset
  obtain ⟨c, cs, hlist, -⟩ := exists_toList_writeIn zone hyear
  simp only [WrittenTime.instant?, trimmed_writeIn hyear hzone hlast]
  split
  · next hnil => rw [hlist] at hnil; cases hnil
  · rw [Instant.read_writeIn hyear hminutes hfirst hoffset]

theorem instant?_write (hyear : 0 ≤ t.date.year ∧ t.date.year ≤ 9999) :
    (WrittenTime.text t.write).instant? = .ok (some t.truncated) := by
  rw [Instant.write_eq_writeIn]
  rw [← Instant.localDate_zero] at hyear
  refine instant?_writeIn hyear (by decide) ?_ ?_ rfl
  · rintro c ⟨⟩
    rfl
  · rintro c ⟨⟩
    decide

end Writing

theorem isPlaceholder_iff {t : Instant} :
    t.isPlaceholder = true ↔ (t.seconds = 0 ∧ t.nanos = 0) ∨ t.date.year ≤ 1 := by
  simp [Instant.isPlaceholder]

theorem year_ge_of_not_isPlaceholder {t : Instant} (h : t.isPlaceholder = false) :
    2 ≤ t.date.year := by
  have hafter := mt isPlaceholder_iff.mpr (Bool.eq_false_iff.mp h)
  omega

/-- All of the first millisecond after the epoch stands for a missing time once it is cut off. -/
theorem isPlaceholder_truncated {t : Instant} :
    t.truncated.isPlaceholder = true ↔
      (t.seconds = 0 ∧ t.nanos < 1000000) ∨ t.date.year ≤ 1 := by
  have hnanos : t.truncated.nanos = 0 ↔ t.nanos < 1000000 := by
    show t.nanos / 1000000 * 1000000 = 0 ↔ t.nanos < 1000000
    omega
  rw [isPlaceholder_iff, Instant.seconds_truncated, Instant.date_truncated, hnanos]

theorem timeText_of_not_isPlaceholder {t : Instant} (h : t.isPlaceholder = false) :
    timeText (some t) = t.write := by
  simp [timeText, Option.filter, h]

theorem timeText_of_isPlaceholder {t : Instant} (h : t.isPlaceholder = true) :
    timeText (some t) = "" := by
  simp [timeText, Option.filter, h]

/-- What a reader gets of a time that is told: milliseconds, and nothing in place of what stands for
a missing time. -/
def toldTime (time : Option Instant) : Option Instant :=
  (time.map Instant.truncated).filter (!·.isPlaceholder)

/-- A time of a year with at most four digits is read back as it is told. -/
theorem bindTime_timeText_of_year_le {time : Option Instant}
    (hyear : ∀ t ∈ time, t.date.year ≤ 9999) (room : Json.Room) :
    bindTime room (.string (timeText time)) = .ok (toldTime time) := by
  cases time with
  | none => rfl
  | some t =>
      cases hplaceholder : t.isPlaceholder with
      | true =>
          have htruncated : t.truncated.isPlaceholder = true := by
            rw [isPlaceholder_truncated]
            have := isPlaceholder_iff.mp hplaceholder
            omega
          rw [timeText_of_isPlaceholder hplaceholder]
          simp only [toldTime, Option.map_some, Option.filter, htruncated]
          rfl
      | false =>
          have hyears : 0 ≤ t.date.year ∧ t.date.year ≤ 9999 := by
            have hafter := year_ge_of_not_isPlaceholder hplaceholder
            exact ⟨by omega, hyear t rfl⟩
          rw [timeText_of_not_isPlaceholder hplaceholder]
          simp only [bindTime, Json.Draft.value?, Option.isNone_some, Bool.false_eq_true, if_false,
            WrittenTime.ofDraft?, instant?_write hyears, toldTime, Option.map_some]

/-- The year of a time in the second of the epoch is no first year and has four digits. -/
theorem year_of_seconds_eq_zero {t : Instant} (h : t.seconds = 0) : t.date.year = 1970 := by
  rw [Instant.date, h]
  decide

/-- A later year has a sign in front of it. -/
theorem exists_toList_write_of_year_gt {t : Instant} (hyear : 9999 < t.date.year) :
    ∃ cs, t.write.toList = '+' :: (cs ++ ['Z']) := by
  have hmarks : "-".toList = ['-'] ∧ "+".toList = ['+'] ∧ "Z".toList = ['Z'] := by decide
  have hnegative : ¬t.date.year < 0 := by omega
  have hlong : ¬(0 ≤ t.date.year ∧ t.date.year ≤ 9999) := by omega
  simp only [Instant.write, Calendar.dateText, Calendar.yearText, if_neg hnegative, if_neg hlong,
    String.toList_append, hmarks]
  simp only [List.cons_append, List.nil_append, List.cons.injEq, true_and]
  exact ⟨_, rfl⟩

/-- At a sign a reader of years stops. -/
theorem read_write_of_year_gt {t : Instant} (hyear : 9999 < t.date.year) :
    Instant.read t.write.toList = none := by
  obtain ⟨cs, hlist⟩ := exists_toList_write_of_year_gt hyear
  have hyears : Calendar.digits? 4 t.write.toList = none := by
    rw [hlist, Calendar.digits?]
    exact if_neg fun h => by simp at h
  simp only [Instant.read, hyears, Option.bind_eq_bind, Option.bind_none]

theorem bindTime_timeText_of_year_gt {t : Instant} (hyear : 9999 < t.date.year)
    (room : Json.Room) :
    bindTime room (.string (timeText (some t))) =
      Binding.fail (.refused TimeFault.text.message) := by
  have hplaceholder : t.isPlaceholder = false := by
    rw [Bool.eq_false_iff]
    intro h
    rcases isPlaceholder_iff.mp h with ⟨hseconds, -⟩ | hfirst
    · have hepoch := year_of_seconds_eq_zero hseconds
      omega
    · omega
  obtain ⟨cs, hlist⟩ := exists_toList_write_of_year_gt hyear
  have htrimmed : Text.trimmed t.write.toList = t.write.toList := by
    rw [hlist]
    apply Text.trimmed_eq_self
    · rintro c ⟨⟩
      decide
    · intro c hc
      rw [← List.cons_append, List.getLast?_concat] at hc
      obtain rfl : 'Z' = c := by simpa using hc
      decide
  have hinstant : (WrittenTime.text t.write).instant? = .error .text := by
    simp only [WrittenTime.instant?, htrimmed]
    split
    · next hnil => rw [hlist] at hnil; cases hnil
    · rw [read_write_of_year_gt hyear]
  rw [timeText_of_not_isPlaceholder hplaceholder]
  simp only [bindTime, Json.Draft.value?, Option.isNone_some, Bool.false_eq_true, if_false,
    WrittenTime.ofDraft?, hinstant]

theorem toldTime_of_isCurrent {time : Option Instant} (htime : ∀ t ∈ time, t.IsCurrent) :
    toldTime time = time.map Instant.truncated := by
  cases time with
  | none => rfl
  | some t => simp [toldTime, Option.filter, (htime t rfl).truncated.not_isPlaceholder]

theorem timeText_truncated {time : Option Instant} (htime : ∀ t ∈ time, t.IsCurrent) :
    timeText (time.map Instant.truncated) = timeText time := by
  cases time with
  | none => rfl
  | some t =>
      have ht : t.IsCurrent := htime t rfl
      simp only [timeText, Option.map_some, Option.filter, ht.not_isPlaceholder,
        ht.truncated.not_isPlaceholder, Bool.not_false, if_true, Instant.write_truncated]

end OrderDesk
