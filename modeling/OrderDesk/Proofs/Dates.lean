import Mathlib.Tactic.Common
import OrderDesk.Calendar.Instant

/-! # Days and dates

Every day has a date on the calendar, and the date gives the day back. A day is first placed in a
cycle of four hundred years and in a year that starts in March; the leap day is then the last of
its year, so months and days follow from the day of the year alone.
-/

namespace OrderDesk.Calendar

/-- The days of a cycle before one of its years, all of them counted from March. -/
def daysBefore (year : Int) : Int := 365 * year + year / 4 - year / 100

/-- The year of a cycle that one of its days lies in. -/
def yearOfDay (day : Int) : Int := (day - day / 1460 + day / 36524 - day / 146096) / 365

/-- The date of a day of a year that starts in March. -/
def dateInYear (year dayOfYear : Int) : Date :=
  let monthFromMarch := (5 * dayOfYear + 2) / 153
  let month := if monthFromMarch < 10 then monthFromMarch + 3 else monthFromMarch - 9
  { year := year + (if month ≤ 2 then 1 else 0)
    month := month.toNat
    day := (dayOfYear - (153 * monthFromMarch + 2) / 5 + 1).toNat }

/-! ### Days of a cycle -/

theorem century_cases {day year : Int} (hday : 0 ≤ day ∧ day < 146097)
    (hyear : 0 ≤ year ∧ year ≤ 399) :
    (day / 36524 = 0 ∨ day / 36524 = 1 ∨ day / 36524 = 2 ∨ day / 36524 = 3 ∨ day / 36524 = 4) ∧
      (year / 100 = 0 ∨ year / 100 = 1 ∨ year / 100 = 2 ∨ year / 100 = 3) := by
  omega

theorem yearOfDay_bounds {day : Int} (hday : 0 ≤ day ∧ day < 146097) :
    0 ≤ yearOfDay day ∧ yearOfDay day ≤ 399 := by
  unfold yearOfDay
  omega

theorem dayOfYear_bounds {day : Int} (hday : 0 ≤ day ∧ day < 146097) :
    0 ≤ day - daysBefore (yearOfDay day) ∧ day - daysBefore (yearOfDay day) ≤ 365 := by
  have hbounds := yearOfDay_bounds hday
  obtain ⟨hcentury, hyears⟩ := century_cases hday hbounds
  unfold daysBefore
  generalize hyear : yearOfDay day = year at *
  unfold yearOfDay at hyear
  by_cases hlast : day = 146096
  · subst hlast
    omega
  · have hzero : day / 146096 = 0 := by omega
    -- with both centuries fixed, what remains is linear in the four-year periods
    rcases hcentury with h | h | h | h | h <;> rw [h, hzero] at hyear <;>
      rcases hyears with h' | h' | h' | h' <;> rw [h'] <;> omega

/-- A year has a last day beyond the 365th only if February is the longer one. -/
theorem leap_of_last_day {day : Int} (hday : 0 ≤ day ∧ day < 146097)
    (hlast : day - daysBefore (yearOfDay day) = 365) :
    (yearOfDay day + 1) % 4 = 0 ∧
      ((yearOfDay day + 1) % 100 ≠ 0 ∨ (yearOfDay day + 1) % 400 = 0) := by
  have hbounds := yearOfDay_bounds hday
  obtain ⟨hcentury, hyears⟩ := century_cases hday hbounds
  unfold daysBefore at hlast
  generalize hyear : yearOfDay day = year at *
  unfold yearOfDay at hyear
  by_cases hend : day = 146096
  · subst hend
    omega
  · have hzero : day / 146096 = 0 := by omega
    have hquarter : year % 4 = 3 := by
      by_contra hne
      have hsame : day / 1460 = year / 4 := by
        rcases hcentury with h | h | h | h | h <;>
          rcases hyears with h' | h' | h' | h' <;> rw [h'] at hlast <;> omega
      rw [hzero, hsame] at hyear
      rcases hcentury with h | h | h | h | h <;> rw [h] at hyear <;>
        rcases hyears with h' | h' | h' | h' <;> rw [h'] at hlast <;> omega
    rcases hcentury with h | h | h | h | h <;> rw [h, hzero] at hyear <;>
      rcases hyears with h' | h' | h' | h' <;> rw [h'] at hlast <;> omega

/-! ### Dates of a year -/

theorem toDays_dateInYear {cycle year dayOfYear : Int} (hyear : 0 ≤ year ∧ year ≤ 399)
    (hday : 0 ≤ dayOfYear ∧ dayOfYear ≤ 365) :
    (dateInYear (year + cycle * 400) dayOfYear).toDays =
      cycle * cycleDays + (daysBefore year + dayOfYear) - epochDay := by
  unfold dateInYear
  simp only
  generalize hmonth : (5 * dayOfYear + 2) / 153 = month
  simp only [Date.toDays, daysBefore]
  by_cases hlate : month < 10
  · simp only [if_pos hlate]
    rw [if_neg (by omega), if_neg (by omega)]
    have hm : (((month + 3).toNat : Int) + 9) % 12 = month := by omega
    have hc : (year + cycle * 400 + 0) / 400 = cycle := by omega
    have hy : (year + cycle * 400 + 0) % 400 = year := by omega
    rw [hm, hc, hy]
    omega
  · simp only [if_neg hlate]
    rw [if_pos (by omega), if_pos (by omega)]
    have hm : (((month - 9).toNat : Int) + 9) % 12 = month := by omega
    have hc : (year + cycle * 400 + 1 - 1) / 400 = cycle := by omega
    have hy : (year + cycle * 400 + 1 - 1) % 400 = year := by omega
    rw [hm, hc, hy]
    omega

theorem isLeapYear_of {year : Int} (hfour : year % 4 = 0)
    (hcentury : year % 100 ≠ 0 ∨ year % 400 = 0) : isLeapYear year = true := by
  simp only [isLeapYear, Bool.and_eq_true, Bool.or_eq_true, decide_eq_true_eq]
  exact ⟨hfour, hcentury⟩

theorem isValid_dateInYear {year dayOfYear : Int} (hday : 0 ≤ dayOfYear ∧ dayOfYear ≤ 365)
    (hleap : dayOfYear = 365 → isLeapYear (year + 1) = true) :
    (dateInYear year dayOfYear).isValid = true := by
  unfold dateInYear
  simp only
  generalize hmonth : (5 * dayOfYear + 2) / 153 = month
  have hrange : 0 ≤ month ∧ month ≤ 11 := by omega
  simp only [Date.isValid, Bool.and_eq_true, decide_eq_true_eq]
  by_cases hfeb : month = 11
  · subst hfeb
    simp only [Int.reduceLT, ↓reduceIte, Int.reduceSub, Int.reduceLE, Int.reduceToNat,
      daysInMonth]
    refine ⟨by omega, ?_⟩
    split
    · omega
    · next hno =>
      have hlast : dayOfYear ≠ 365 := fun heq => hno (hleap heq)
      omega
  · have hlength : (dayOfYear - (153 * month + 2) / 5 + 1).toNat ≤
        if month = 1 ∨ month = 3 ∨ month = 6 ∨ month = 8 then 30 else 31 := by
      split <;> omega
    obtain h | h | h | h | h | h | h | h | h | h | h : month = 0 ∨ month = 1 ∨ month = 2 ∨
        month = 3 ∨ month = 4 ∨ month = 5 ∨ month = 6 ∨ month = 7 ∨ month = 8 ∨ month = 9 ∨
        month = 10 := by omega
    all_goals
      subst h
      simp [daysInMonth] at hlength ⊢
      omega

/-! ### Dates of days -/

theorem ofDays_eq_dateInYear (days : Int) :
    Date.ofDays days =
      dateInYear (yearOfDay ((days + epochDay) % cycleDays) + (days + epochDay) / cycleDays * 400)
        ((days + epochDay) % cycleDays -
          daysBefore (yearOfDay ((days + epochDay) % cycleDays))) :=
  rfl

theorem dayOfCycle_bounds (days : Int) : 0 ≤ days % cycleDays ∧ days % cycleDays < 146097 := by
  unfold cycleDays
  omega

/-- The date of a day gives the day back. -/
theorem toDays_ofDays (days : Int) : (Date.ofDays days).toDays = days := by
  have hday := dayOfCycle_bounds (days + epochDay)
  rw [ofDays_eq_dateInYear, toDays_dateInYear (yearOfDay_bounds hday) (dayOfYear_bounds hday)]
  have hsplit := Int.mul_ediv_add_emod (days + epochDay) cycleDays
  rw [Int.mul_comm] at hsplit
  omega

/-- Every day has a date on the calendar. -/
theorem isValid_ofDays (days : Int) : (Date.ofDays days).isValid = true := by
  have hday := dayOfCycle_bounds (days + epochDay)
  rw [ofDays_eq_dateInYear]
  refine isValid_dateInYear (dayOfYear_bounds hday) fun hlast => ?_
  obtain ⟨hfour, hcentury⟩ := leap_of_last_day hday hlast
  exact isLeapYear_of (by omega) (by omega)

theorem daysInMonth_le (year : Int) (month : Nat) : daysInMonth year month ≤ 31 := by
  unfold daysInMonth
  split
  · split <;> decide
  all_goals decide

theorem Date.isValid_bounds {d : Date} (h : d.isValid = true) : d.month ≤ 12 ∧ d.day ≤ 31 := by
  have hlength := daysInMonth_le d.year d.month
  simp only [Date.isValid, Bool.and_eq_true, decide_eq_true_eq] at h
  omega

/-- From the epoch on, years are those of the present era. -/
theorem year_ofDays_ge {days : Int} (h : 0 ≤ days) : 1600 ≤ (Date.ofDays days).year := by
  have hday := yearOfDay_bounds (dayOfCycle_bounds (days + epochDay))
  have hcycle : 4 ≤ (days + epochDay) / cycleDays := by
    unfold epochDay cycleDays
    omega
  rw [ofDays_eq_dateInYear]
  simp only [dateInYear]
  split <;> omega

end OrderDesk.Calendar
