import Mathlib.Tactic.Common
import OrderDesk.Order.Total

/-! # Totals are finite

Amounts have at most 96 bits, so no step on the way from an amount to a float comes near the
largest float. A total that is computed at all is therefore a finite number, and an order's JSON
form always has a number for it.
-/

namespace OrderDesk

namespace Binary64

/-! ### Bounded floats -/

/-- A finite number whose distance from zero is at most `2 ^ bits` units. -/
def IsWithin (x : Binary64) (bits : Nat) : Prop :=
  ∃ f, x = finite f ∧ f.units ≤ Nat.pow 2 bits

/-- A finite number between one and `2 ^ bits` units. -/
def IsScale (bits : Nat) : Binary64 → Bool
  | finite f => one ≤ f.units && f.units ≤ Nat.pow 2 bits
  | _ => false

theorem IsWithin.isFinite {x : Binary64} {bits : Nat} (h : x.IsWithin bits) :
    x.isFinite = true := by
  obtain ⟨f, rfl, -⟩ := h
  rfl

theorem IsWithin.mono {x : Binary64} {bits more : Nat} (h : x.IsWithin bits) :
    x.IsWithin (bits + more) := by
  obtain ⟨f, rfl, hf⟩ := h
  exact ⟨f, rfl, Nat.le_trans hf (Nat.pow_le_pow_right (by decide) (by omega))⟩

theorem IsScale.exists {x : Binary64} {bits : Nat} (h : x.IsScale bits = true) :
    ∃ f, x = finite f ∧ one ≤ f.units ∧ f.units ≤ Nat.pow 2 bits := by
  cases x with
  | finite f =>
      simp only [IsScale, Bool.and_eq_true, decide_eq_true_eq] at h
      exact ⟨f, rfl, h.1, h.2⟩
  | nan => cases h
  | infinite s => cases h

theorem nearestEven_bounds (num den : Nat) :
    num / den ≤ nearestEven num den ∧ nearestEven num den ≤ num / den + 1 := by
  simp only [nearestEven]
  split
  · omega
  · omega
  · split <;> omega

theorem ofParts_isWithin {mantissa exponent bits : Nat} (negative : Bool)
    (hmantissa : mantissa < 0x20000000000000)
    (hnormal : exponent = 0 ∨ 0x10000000000000 ≤ mantissa) (hexponent : exponent ≤ 2045)
    (hbits : exponent + 53 ≤ bits) : (ofParts negative mantissa exponent).IsWithin bits := by
  refine ⟨_, dif_pos ⟨hmantissa, hnormal, hexponent⟩, ?_⟩
  simp only [Finite.units, Nat.pow_eq]
  calc mantissa * 2 ^ exponent
      ≤ 2 ^ 53 * 2 ^ exponent := Nat.mul_le_mul_right _ (by omega)
    _ = 2 ^ (53 + exponent) := (Nat.pow_add ..).symm
    _ ≤ 2 ^ bits := Nat.pow_le_pow_right (by decide) (by omega)

/-- Rounding adds at most two bits, and does not overflow below `2 ^ 2096` units. -/
theorem ofUnits_isWithin {num den bits : Nat} (negative : Bool) (hlow : 52 ≤ bits)
    (hhigh : bits ≤ 2096) (hnum : num ≤ den * Nat.pow 2 bits) :
    (ofUnits negative num den).IsWithin (bits + 2) := by
  simp only [Nat.pow_eq] at hnum
  have hquotient : num / den ≤ 2 ^ bits := Nat.div_le_of_le_mul hnum
  have hlog : (num / den).log2 ≤ bits := by
    by_cases hzero : num / den = 0
    · rw [hzero]
      exact Nat.zero_le _
    · by_contra hgt
      have hlt := Nat.log2_self_le hzero
      have hpow : 2 ^ bits < 2 ^ (num / den).log2 :=
        Nat.pow_lt_pow_right (by decide) (by omega)
      omega
  have hupper : num / den < 2 ^ ((num / den).log2 + 1) := Nat.lt_log2_self
  unfold ofUnits
  generalize hexponent : (num / den).log2 - 52 = exponent
  have hfloor : num / (den * Nat.pow 2 exponent) = num / den / 2 ^ exponent := by
    rw [Nat.div_div_eq_div_mul, Nat.pow_eq]
  obtain ⟨hfrom, hto⟩ := nearestEven_bounds num (den * Nat.pow 2 exponent)
  rw [hfloor] at hfrom hto
  have hlt : num / den / 2 ^ exponent < 0x20000000000000 := by
    rw [Nat.div_lt_iff_lt_mul (Nat.pow_pos (by decide))]
    calc num / den < 2 ^ ((num / den).log2 + 1) := hupper
      _ ≤ 2 ^ (53 + exponent) := Nat.pow_le_pow_right (by decide) (by omega)
      _ = 0x20000000000000 * 2 ^ exponent := Nat.pow_add 2 53 _
  have hge : exponent = 0 ∨ 0x10000000000000 ≤ num / den / 2 ^ exponent := by
    by_cases hzero : exponent = 0
    · exact .inl hzero
    · right
      have hne : num / den ≠ 0 := by
        intro heq
        rw [heq] at hexponent
        exact hzero (by rw [← hexponent]; rfl)
      rw [Nat.le_div_iff_mul_le (Nat.pow_pos (by decide))]
      calc 0x10000000000000 * 2 ^ exponent = 2 ^ (52 + exponent) := (Nat.pow_add 2 52 _).symm
        _ ≤ 2 ^ (num / den).log2 := Nat.pow_le_pow_right (by decide) (by omega)
        _ ≤ num / den := Nat.log2_self_le hne
  simp only
  split
  · exact ofParts_isWithin negative (by decide) (.inr (by decide)) (by omega) (by omega)
  · exact ofParts_isWithin negative (by omega) (by omega) (by omega) (by omega)

/-- One as a power of two whose exponent stays a variable, so that nothing evaluates it. -/
theorem exists_one_eq : ∃ bits, bits = 1074 ∧ one = Nat.pow 2 bits := ⟨1074, rfl, one.eq_def⟩

theorem one_pos : 0 < one := by
  obtain ⟨unit, -, hone⟩ := exists_one_eq
  rw [hone]
  exact Nat.pow_pos (by decide)

theorem ofRatio_isWithin (negative : Bool) {n bits : Nat} (hbits : bits ≤ 1000)
    (hn : n ≤ Nat.pow 2 bits) : (ofRatio negative n 1).IsWithin (bits + 1076) := by
  obtain ⟨unit, hunit, hone⟩ := exists_one_eq
  have hbound : n * one ≤ 1 * Nat.pow 2 (bits + unit) := by
    rw [Nat.one_mul, hone, Nat.pow_eq, Nat.pow_eq, Nat.pow_add]
    exact Nat.mul_le_mul_right _ hn
  have hratio := ofUnits_isWithin negative (by omega) (by omega) hbound
  rwa [show bits + unit + 2 = bits + 1076 by omega] at hratio

theorem ofNat_isWithin {n bits : Nat} (hbits : bits ≤ 1000) (hn : n ≤ Nat.pow 2 bits) :
    (ofNat n).IsWithin (bits + 1076) := ofRatio_isWithin false hbits hn

theorem add_isWithin {x y : Binary64} {bits : Nat} (hlow : 51 ≤ bits) (hhigh : bits ≤ 2095)
    (hx : x.IsWithin bits) (hy : y.IsWithin bits) : (x.add y).IsWithin (bits + 3) := by
  obtain ⟨f, rfl, hf⟩ := hx
  obtain ⟨g, rfl, hg⟩ := hy
  have hadd : (finite f).add (finite g) =
      ofUnits (if f.value + g.value = 0 then f.negative && g.negative else f.value + g.value < 0)
        (f.value + g.value).natAbs 1 := rfl
  have hsum : (f.value + g.value).natAbs ≤ 1 * Nat.pow 2 (bits + 1) := by
    simp only [Nat.pow_eq, Nat.pow_succ, Finite.value] at hf hg ⊢
    split <;> split <;> omega
  rw [hadd]
  exact ofUnits_isWithin _ (by omega) (by omega) hsum

theorem div_isWithin {x y : Binary64} {bits high : Nat} (hlow : 52 ≤ bits) (hhigh : bits ≤ 2096)
    (hx : x.IsWithin bits) (hy : y.IsScale high = true) : (x.div y).IsWithin (bits + 2) := by
  obtain ⟨f, rfl, hf⟩ := hx
  obtain ⟨g, rfl, hg, -⟩ := IsScale.exists hy
  have hpos : 0 < g.units := Nat.lt_of_lt_of_le one_pos hg
  simp only [div, if_neg (Nat.ne_of_gt hpos)]
  refine ofUnits_isWithin _ hlow hhigh ?_
  rw [Nat.mul_comm]
  exact Nat.mul_le_mul hg hf

theorem mul_isWithin {x y : Binary64} {bits extra : Nat} (hlow : 52 ≤ bits)
    (hhigh : bits + extra ≤ 2096) (hx : x.IsWithin bits) (hy : y.IsScale (1074 + extra) = true) :
    (x.mul y).IsWithin (bits + extra + 2) := by
  obtain ⟨unit, hunit, hone⟩ := exists_one_eq
  rw [← hunit] at hy
  obtain ⟨f, rfl, hf⟩ := hx
  obtain ⟨g, rfl, -, hg⟩ := IsScale.exists hy
  have hbound : f.units * g.units ≤ one * Nat.pow 2 (bits + extra) := by
    calc f.units * g.units ≤ 2 ^ bits * 2 ^ (unit + extra) := Nat.mul_le_mul hf hg
      _ = one * Nat.pow 2 (bits + extra) := by
        rw [hone, Nat.pow_eq, Nat.pow_eq, ← Nat.pow_add, ← Nat.pow_add, Nat.add_left_comm]
  have hunits := ofUnits_isWithin (f.negative != g.negative) (by omega) hhigh hbound
  simpa only [mul] using hunits

theorem round_isWithin {x : Binary64} {bits : Nat} (hlow : 1074 ≤ bits) (hhigh : bits ≤ 2095)
    (hx : x.IsWithin bits) : x.round.IsWithin (bits + 3) := by
  obtain ⟨unit, hunit, hone⟩ := exists_one_eq
  obtain ⟨f, rfl, hf⟩ := hx
  have hle : one ≤ 2 ^ bits := by
    rw [hone]
    exact Nat.pow_le_pow_right (by decide) (by omega)
  have hnear : ∀ n step : Nat, (2 * n + step) / (2 * step) * step ≤ n + step := by
    intro n step
    have hdiv := Nat.div_mul_le_self (2 * n + step) (2 * step)
    rw [Nat.mul_left_comm] at hdiv
    omega
  have hbound : (2 * f.units + one) / (2 * one) * one ≤ 1 * Nat.pow 2 (bits + 1) := by
    have hsum := hnear f.units one
    simp only [Nat.pow_eq, Nat.pow_succ] at hf ⊢
    omega
  have hunits := ofUnits_isWithin f.negative (by omega) (by omega) hbound
  simpa only [round, ofRatio] using hunits

end Binary64

namespace Amount

/-! ### Amounts -/

/-- An amount within the bounds of its format. -/
structure IsBounded (a : Amount) : Prop where
  mantissa_lt : a.mantissa < limit
  scale_le : a.scale ≤ maxScale

theorem fit?_isBounded {mantissa scale : Nat} {a : Amount} (h : fit? mantissa scale = some a) :
    a.IsBounded := by
  obtain ⟨dropped, -, hdropped⟩ := List.exists_of_findSome?_eq_some h
  simp only at hdropped
  split at hdropped
  · next hfits =>
    obtain rfl := Option.some.inj hdropped
    exact ⟨hfits.2, hfits.1⟩
  · cases hdropped

theorem normalized_go_isBounded {scale mantissa : Nat} (hmantissa : mantissa < limit)
    (hscale : scale ≤ maxScale) : (normalized.go scale mantissa).IsBounded := by
  induction scale generalizing mantissa with
  | zero => exact ⟨hmantissa, hscale⟩
  | succ scale ih =>
      unfold normalized.go
      split
      · exact ih (by omega) (by omega)
      · exact ⟨hmantissa, hscale⟩

theorem IsBounded.normalized {a : Amount} (h : a.IsBounded) : a.normalized.IsBounded :=
  normalized_go_isBounded h.mantissa_lt h.scale_le

/-- The powers of ten that amounts are divided by. -/
theorem isScale_powers : ∀ scale < 29,
    (Binary64.ofNat (Nat.pow 10 scale)).IsScale (1074 + 196) = true ∧
      ((Binary64.ofNat 10).pow scale).IsScale (1074 + 196) = true := by
  decide +kernel

theorem IsBounded.toBinary64_isFinite {a : Amount} (h : a.IsBounded) :
    a.toBinary64.isFinite = true := by
  obtain ⟨hdivisor, hplaces⟩ := isScale_powers a.scale (Nat.lt_succ_of_le h.scale_le)
  have hsmall : ∀ n ≤ a.mantissa, (Binary64.ofNat n).IsWithin 1172 := fun n hn =>
    Binary64.ofNat_isWithin (by decide) (Nat.le_trans hn (Nat.le_of_lt h.mantissa_lt))
  have hwhole := hsmall (a.mantissa / Nat.pow 10 a.scale) (Nat.div_le_self ..)
  have hrest := hsmall (a.mantissa % Nat.pow 10 a.scale) (Nat.mod_le ..)
  unfold toBinary64
  split
  · exact (hsmall a.mantissa (Nat.le_refl _)).isFinite
  · simp only
    split
    · exact hwhole.isFinite
    · have hfraction := Binary64.div_isWithin (by decide) (by decide) hrest hdivisor
      have hsum := Binary64.add_isWithin (by decide) (by decide) hwhole.mono hfraction
      have hproduct := Binary64.mul_isWithin (by decide) (by decide) hsum hplaces
      have hround := Binary64.round_isWithin (by decide) (by decide) hproduct
      exact (Binary64.div_isWithin (by decide) (by decide) hround hplaces).isFinite

end Amount

/-! ### Totals -/

theorem addLine_isBounded {sum next : Amount} {item : LineItem} (h : addLine sum item = .ok next) :
    next.IsBounded := by
  simp only [addLine, bind, Except.bind] at h
  split at h
  · cases h
  · next price _ =>
    split at h
    · next found hfound =>
      obtain ⟨line, -, hadd⟩ := Option.bind_eq_some_iff.mp hfound
      obtain rfl : found = next := Except.ok.inj h
      exact Amount.fit?_isBounded hadd
    · cases h

theorem sumLines_isBounded {items : List LineItem} {start sum : Amount} (hstart : start.IsBounded)
    (h : items.foldlM addLine start = .ok sum) : sum.IsBounded := by
  induction items generalizing start with
  | nil =>
      obtain rfl : start = sum := Except.ok.inj h
      exact hstart
  | cons item items ih =>
      rw [List.foldlM_cons] at h
      cases hline : addLine start item with
      | error fault => rw [hline] at h; cases h
      | ok next =>
          rw [hline] at h
          exact ih (addLine_isBounded hline) h

/-- A total is a finite number. -/
theorem orderTotal_isFinite {items : List LineItem} {total : Binary64}
    (h : orderTotal items = .ok total) : total.isFinite = true := by
  cases hsum : sumLines items with
  | error fault => rw [orderTotal, hsum] at h; cases h
  | ok sum =>
      have hzero : Amount.zero.IsBounded := ⟨by decide, by decide⟩
      have hbounded : sum.IsBounded := sumLines_isBounded hzero hsum
      rw [orderTotal, hsum] at h
      obtain rfl : sum.normalized.toBinary64 = total := Except.ok.inj h
      exact hbounded.normalized.toBinary64_isFinite

/-- Only finite prices add up to a total. -/
theorem prices_isFinite {items : List LineItem} {start sum : Amount}
    (h : items.foldlM addLine start = .ok sum) :
    ∀ item ∈ items, item.unitPrice.isFinite = true := by
  induction items generalizing start with
  | nil => simp
  | cons item items ih =>
      rw [List.foldlM_cons] at h
      cases hline : addLine start item with
      | error fault => rw [hline] at h; cases h
      | ok next =>
          rw [hline] at h
          refine List.forall_mem_cons.mpr ⟨?_, ih h⟩
          cases hprice : item.unitPrice with
          | finite x => rfl
          | nan | infinite s =>
              simp only [addLine, LineItem.price, hprice, bind, Except.bind] at hline
              cases hline

end OrderDesk
