import Mathlib.Tactic.Common
import OrderDesk.Proofs.Records

/-! # Placeholders among times

A time that only stands for a missing one is read as missing, so an order that was read has no such
time. What is told of a time leaves out all below the millisecond, though: any time in the first
millisecond after the epoch is told as the epoch, which is read as missing again.
-/

namespace OrderDesk

open Calendar (Instant)

/-! ### Times that were read -/

theorem not_isPlaceholder_of_bindTime {room : Json.Room} {d : Json.Draft} {time : Option Instant}
    (h : bindTime room d = .ok time) : ∀ t ∈ time, t.isPlaceholder = false := by
  unfold bindTime at h
  split at h
  · obtain rfl := Except.ok.inj h
    simp
  · split at h
    · cases h
    · split at h
      · cases h
      · split at h
        · obtain rfl := Except.ok.inj h
          intro t ht
          simpa using (Option.mem_filter_iff.mp ht).2
        · cases h

/-- An order with no times that stand for missing ones. -/
structure Order.TimesGenuine (o : Order) : Prop where
  createdAt : ∀ t ∈ o.createdAt, t.isPlaceholder = false
  updatedAt : ∀ t ∈ o.updatedAt, t.isPlaceholder = false

theorem Order.timesGenuine_of_bind {room : Json.Room} {d : Json.Draft} {o : Order}
    (h : Order.bind room d = .ok o) : o.TimesGenuine := by
  refine Binding.record_keeps (P := Order.TimesGenuine) (fun part hpart => ?_)
    ⟨by simp, by simp⟩ h
  simp only [Order.parts, List.mem_cons, List.not_mem_nil, or_false] at hpart
  rcases hpart with rfl | rfl | rfl | rfl | rfl | rfl | rfl | rfl | rfl
  case inr.inr.inr.inr.inr.inr.inr.inl =>
    exact Binding.Part.keeps_of fun _ _ _ htime _ ho =>
      ⟨not_isPlaceholder_of_bindTime htime, ho.updatedAt⟩
  case inr.inr.inr.inr.inr.inr.inr.inr =>
    exact Binding.Part.keeps_of fun _ _ _ htime _ ho =>
      ⟨ho.createdAt, not_isPlaceholder_of_bindTime htime⟩
  all_goals exact Binding.Part.keeps_of fun _ _ _ _ _ ho => ⟨ho.createdAt, ho.updatedAt⟩

/-! ### Texts of times -/

theorem Calendar.Instant.write_ne_empty (t : Instant) : t.write ≠ "" := by
  intro h
  have hlist := congrArg String.toList h
  simp [Instant.write] at hlist

/-- The text of a time is empty only if there is none. -/
theorem timeText_eq_empty_iff {time : Option Instant} (h : ∀ t ∈ time, t.isPlaceholder = false) :
    timeText time = "" ↔ time = none := by
  cases time with
  | none => exact ⟨fun _ => rfl, fun _ => rfl⟩
  | some t =>
      rw [timeText_of_not_isPlaceholder (h t rfl)]
      simp [t.write_ne_empty]

/-- The text of the epoch. -/
def epochText : String := "1970-01-01T00:00:00.000Z"

theorem write_epoch : Instant.epoch.write = epochText := by
  decide +kernel

variable {t : Instant}

theorem truncated_eq_epoch_iff :
    t.truncated = Instant.epoch ↔ t.seconds = 0 ∧ t.nanos < 1000000 := by
  have hnanos : t.nanos / 1000000 * 1000000 = 0 ↔ t.nanos < 1000000 := by omega
  simp only [Instant.truncated, Instant.epoch, Instant.mk.injEq, hnanos]

/-- The instant that a told time denotes is the time up to the millisecond. -/
theorem eq_truncated_of_read_timeText (h : t.isPlaceholder = false) {other : Instant}
    (hread : Instant.read (timeText (some t)).toList = some other) : other = t.truncated := by
  rw [timeText_of_not_isPlaceholder h] at hread
  by_cases hyear : t.date.year ≤ 9999
  · have hfirst := year_ge_of_not_isPlaceholder h
    rw [Instant.read_write ⟨by omega, hyear⟩] at hread
    exact (Option.some.inj hread).symm
  · rw [read_write_of_year_gt (by omega)] at hread
    cases hread

/-- A time is told as the epoch if it is in the first millisecond after it. -/
theorem timeText_eq_epochText_iff (h : t.isPlaceholder = false) :
    timeText (some t) = epochText ↔ t.seconds = 0 ∧ t.nanos < 1000000 := by
  rw [← truncated_eq_epoch_iff]
  constructor
  · intro htext
    have hread : Instant.read (timeText (some t)).toList = some Instant.epoch.truncated := by
      rw [htext, ← write_epoch]
      exact Instant.read_write (by decide)
    exact (eq_truncated_of_read_timeText h hread).symm
  · intro hepoch
    rw [timeText_of_not_isPlaceholder h, ← Instant.write_truncated, hepoch, write_epoch]

/-- What is told of a time is read as missing if the time is in the first millisecond after the
epoch. -/
theorem bindTime_timeText_eq_none_iff (h : t.isPlaceholder = false) (room : Json.Room) :
    bindTime room (.string (timeText (some t))) = .ok none ↔ t.seconds = 0 ∧ t.nanos < 1000000 := by
  by_cases hyear : t.date.year ≤ 9999
  · have hfirst := year_ge_of_not_isPlaceholder h
    have htold : toldTime (some t) = none ↔ t.truncated.isPlaceholder = true := by
      simp [toldTime]
    rw [bindTime_timeText_of_year_le (by simpa using hyear), Except.ok.injEq, htold,
      isPlaceholder_truncated]
    omega
  · rw [bindTime_timeText_of_year_gt (by omega)]
    constructor
    · intro hfail
      cases hfail
    · rintro ⟨hseconds, -⟩
      have hepoch := year_of_seconds_eq_zero hseconds
      omega

/-! ### Orders that were read -/

namespace Order

/-- A told time of an order that was read, if it is not an empty text, denotes an instant after the
first year, and it is read as missing only where it is the epoch, which is told of the first
millisecond after it. -/
theorem times_told {room : Json.Room} {d : Json.Draft} {o : Order}
    (h : Order.bind room d = .ok o) :
    ∀ entry ∈ o.times,
      o.toJson.get? entry.1 = some (.string (timeText entry.2)) ∧
      (timeText entry.2 = "" ↔ entry.2 = none) ∧
      ∀ t ∈ entry.2,
        (∀ told, Instant.read (timeText entry.2).toList = some told → 2 ≤ told.date.year) ∧
        (timeText entry.2 = "1970-01-01T00:00:00.000Z" ↔ t.seconds = 0 ∧ t.nanos < 1000000) ∧
        (bindTime none (.string (timeText entry.2)) = .ok none ↔
          t.seconds = 0 ∧ t.nanos < 1000000) := by
  have hgenuine := timesGenuine_of_bind h
  have htimes : ∀ entry ∈ o.times, o.toJson.get? entry.1 = some (.string (timeText entry.2)) ∧
      ∀ t ∈ entry.2, t.isPlaceholder = false := by
    simp only [times, List.forall_mem_cons]
    exact ⟨⟨rfl, hgenuine.createdAt⟩, ⟨rfl, hgenuine.updatedAt⟩, List.forall_mem_nil _⟩
  rintro ⟨name, time⟩ hentry
  obtain ⟨htext, hpresent⟩ := htimes _ hentry
  refine ⟨htext, timeText_eq_empty_iff hpresent, ?_⟩
  rintro t rfl
  have ht := hpresent t rfl
  refine ⟨fun told hread => ?_, timeText_eq_epochText_iff ht, bindTime_timeText_eq_none_iff ht none⟩
  rw [eq_truncated_of_read_timeText ht hread, Instant.date_truncated]
  exact year_ge_of_not_isPlaceholder ht

/-- A leap second right before the epoch is no missing time. -/
theorem times_told_leap_second :
    let v : Json := .object [("createdAt", .string "1969-12-31T23:59:60.25Z")]
    let o : Order := { createdAt := some { seconds := -1, nanos := 1250000000 } }
    Binding.ofValue Order.bind v = .ok o ∧ timeText o.createdAt ≠ "" ∧
      bindTime none (.string (timeText o.createdAt)) ≠ .ok none := by
  intro v o
  have hbind : Binding.ofValue Order.bind v = .ok o := rfl
  obtain ⟨-, hempty, htold⟩ := times_told hbind ("createdAt", o.createdAt) List.mem_cons_self
  obtain ⟨-, -, hmissing⟩ := htold { seconds := -1, nanos := 1250000000 } rfl
  exact ⟨hbind, mt hempty.mp (Option.some_ne_none _), mt hmissing.mp (by decide)⟩

/-- An order made half a millisecond after the epoch is told to be made at the epoch, which is read
as no time at all. -/
theorem epoch_told_after_it :
    let v : Json := .object [("createdAt", .string "1970-01-01T00:00:00.0005Z")]
    let o : Order := { createdAt := some { seconds := 0, nanos := 500000 } }
    Binding.ofValue Order.bind v = .ok o ∧
      o.toJson.get? "createdAt" = some (.string "1970-01-01T00:00:00.000Z") ∧
      bindTime none (.string "1970-01-01T00:00:00.000Z") = .ok none := by
  exact ⟨rfl, rfl, rfl⟩

end Order

end OrderDesk
