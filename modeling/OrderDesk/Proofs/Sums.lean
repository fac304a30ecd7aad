import Mathlib.Algebra.Order.Ring.Rat
import Mathlib.Tactic.FieldSimp
import Mathlib.Tactic.Ring
import OrderDesk.Proofs.Totals

/-! # Sums are exact as long as they fit

The prices of an order have different scales, so every product and every partial sum has a scale
of its own. Counted in units of the finest scale, all of them are whole numbers, and a partial sum
is never more than the whole. If the whole fits into 96 bits nothing is rounded on the way, and
the total depends on nothing but the number of units.
-/

namespace OrderDesk

namespace Amount

/-! ### Counting in units -/

/-- The number that an amount stands for. -/
def value (a : Amount) : ℚ := a.mantissa / 10 ^ a.scale

/-- How many units of `10 ^ -scale` an amount is, for a scale no less than its own. -/
def unitsAt (a : Amount) (scale : Nat) : Nat := a.mantissa * 10 ^ (scale - a.scale)

/-- The amount is `units` units of `10 ^ -scale`, and its own scale is no finer. -/
structure IsUnits (a : Amount) (scale units : Nat) : Prop where
  scale_le : a.scale ≤ scale
  unitsAt_eq : a.unitsAt scale = units

variable {a b : Amount} {scale units more : Nat}

theorem isUnits_unitsAt (h : a.scale ≤ scale) : a.IsUnits scale (a.unitsAt scale) := ⟨h, rfl⟩

theorem zero_isUnits : zero.IsUnits scale 0 := ⟨Nat.zero_le _, Nat.zero_mul _⟩

theorem IsUnits.value_eq (h : a.IsUnits scale units) : a.value = units / 10 ^ scale := by
  obtain ⟨extra, rfl⟩ := Nat.exists_eq_add_of_le h.scale_le
  rw [← h.unitsAt_eq, unitsAt, Nat.add_sub_cancel_left, value]
  push_cast
  field_simp
  ring

theorem IsUnits.mantissa_le (h : a.IsUnits scale units) : a.mantissa ≤ units := by
  rw [← h.unitsAt_eq]
  exact Nat.le_mul_of_pos_right _ (Nat.pow_pos (by decide))

/-! ### Exact steps -/

/-- What is within the bounds is not rounded. -/
theorem fit?_eq_some {mantissa : Nat} (hscale : scale ≤ maxScale) (hmantissa : mantissa < limit) :
    fit? mantissa scale = some ⟨mantissa, scale⟩ := by
  have hwhole : Binary64.nearestEven mantissa (Nat.pow 10 0) = mantissa := by
    simp [Binary64.nearestEven, Nat.mod_one, compare_lt_iff_lt.mpr]
  rw [fit?, List.range_succ_eq_map, List.findSome?_cons]
  simp only [hwhole, Nat.sub_zero, if_pos (And.intro hscale hmantissa)]

theorem IsUnits.times? {n : Nat} (h : a.IsUnits scale units) (hscale : scale ≤ maxScale)
    (hfits : units * n < limit) :
    ∃ product, a.times? n = some product ∧ product.IsUnits scale (units * n) := by
  have hunits : units * n = a.mantissa * n * 10 ^ (scale - a.scale) := by
    rw [← h.unitsAt_eq, unitsAt, Nat.mul_right_comm]
  unfold Amount.times?
  split
  next hzero =>
    rw [hunits, hzero, Nat.zero_mul]
    exact ⟨zero, rfl, zero_isUnits⟩
  next =>
    have hproduct : a.mantissa * n < limit :=
      Nat.lt_of_le_of_lt (Nat.mul_le_mul_right n h.mantissa_le) hfits
    exact ⟨_, fit?_eq_some (Nat.le_trans h.scale_le hscale) hproduct, h.scale_le, hunits.symm⟩

theorem IsUnits.add? (ha : a.IsUnits scale units) (hb : b.IsUnits scale more)
    (hscale : scale ≤ maxScale) (hfits : units + more < limit) :
    ∃ sum, a.add? b = some sum ∧ sum.IsUnits scale (units + more) := by
  have hmax : max a.scale b.scale ≤ scale := Nat.max_le.mpr ⟨ha.scale_le, hb.scale_le⟩
  -- the sum is computed at the finer scale of the two, which the common scale is no coarser than
  have hraise : ∀ c : Amount, c.scale ≤ max a.scale b.scale →
      c.unitsAt (max a.scale b.scale) * 10 ^ (scale - max a.scale b.scale) = c.unitsAt scale := by
    intro c hc
    rw [unitsAt, Nat.mul_assoc, ← Nat.pow_add, unitsAt]
    congr 2
    omega
  have hsum : (a.unitsAt (max a.scale b.scale) + b.unitsAt (max a.scale b.scale)) *
      10 ^ (scale - max a.scale b.scale) = units + more := by
    rw [Nat.add_mul, hraise a (Nat.le_max_left ..), hraise b (Nat.le_max_right ..),
      ha.unitsAt_eq, hb.unitsAt_eq]
  have hle := Nat.le_mul_of_pos_right
    (a.unitsAt (max a.scale b.scale) + b.unitsAt (max a.scale b.scale))
    (Nat.pow_pos (n := scale - max a.scale b.scale) (show 0 < 10 by decide))
  rw [hsum] at hle
  exact ⟨_, fit?_eq_some (Nat.le_trans hmax hscale) (Nat.lt_of_le_of_lt hle hfits), hmax, hsum⟩

/-! ### Without zeros at the end -/

theorem normalized_go_mul (mantissa extra : Nat) :
    normalized.go (scale + extra) (mantissa * 10 ^ extra) = normalized.go scale mantissa := by
  induction extra with
  | zero => simp
  | succ extra ih =>
      have hdigit : mantissa * 10 ^ (extra + 1) = 10 * (mantissa * 10 ^ extra) := by ring
      rw [hdigit, ← Nat.add_assoc, normalized.go, if_pos (Nat.mul_mod_right ..),
        Nat.mul_div_cancel_left _ (by decide), ih]

/-- The number of units alone decides the form without zeros at the end. -/
theorem IsUnits.normalized_eq (h : a.IsUnits scale units) :
    a.normalized = normalized.go scale units := by
  obtain ⟨extra, rfl⟩ := Nat.exists_eq_add_of_le h.scale_le
  rw [← h.unitsAt_eq, unitsAt, Nat.add_sub_cancel_left, normalized_go_mul, normalized]

theorem normalized_go_value (mantissa : Nat) :
    (normalized.go scale mantissa).value = mantissa / 10 ^ scale := by
  induction scale generalizing mantissa with
  | zero => rfl
  | succ scale ih =>
      unfold normalized.go
      split
      next hzero =>
        obtain ⟨rest, rfl⟩ := Nat.dvd_of_mod_eq_zero hzero
        rw [Nat.mul_div_cancel_left _ (by decide), ih]
        push_cast
        field_simp
        ring
      next => rfl

theorem normalized_value (a : Amount) : a.normalized.value = a.value := normalized_go_value _

theorem normalized_go_scale_le (mantissa : Nat) : (normalized.go scale mantissa).scale ≤ scale := by
  induction scale generalizing mantissa with
  | zero => exact Nat.le_refl _
  | succ scale ih =>
      unfold normalized.go
      split
      · exact Nat.le_succ_of_le (ih _)
      · exact Nat.le_refl _

/-! ### The scale of a price -/

theorem raise_power_ge {steps : Nat} {s : Scaled} (h : -(maxScale : Int) ≤ s.power + steps) :
    -(maxScale : Int) ≤ (raise steps s).power := by
  induction steps generalizing s with
  | zero => simpa [raise] using h
  | succ steps ih =>
      unfold raise
      split
      · split
        · exact Int.neg_nonpos_of_nonneg (Int.natCast_nonneg _)
        · refine ih ?_
          simp only [dropDigit]
          omega
      · omega

theorem trimPrecision_power_ge (steps : Nat) (s : Scaled) :
    s.power ≤ (trimPrecision steps s).power := by
  induction steps generalizing s with
  | zero => exact Int.le_refl _
  | succ steps ih =>
      unfold trimPrecision
      split
      · exact Int.le_trans (Int.le_add_one (Int.le_refl _)) (ih (dropDigit s))
      · exact Int.le_refl _

theorem ofFinite?_scale_le {x : Binary64.Finite} (h : ofFinite? x = some a) :
    a.scale ≤ maxScale := by
  unfold ofFinite? at h
  split at h
  · obtain rfl := Option.some.inj h
    exact Nat.zero_le _
  · simp only at h
    split at h
    · cases h
    · split at h
      · cases h
      · next s _ =>
        obtain rfl := Option.some.inj h
        have hraised : -(maxScale : Int) ≤ (raise (-s.power).toNat s).power :=
          raise_power_ge (by omega)
        have htrimmed := trimPrecision_power_ge (-(raise (-s.power).toNat s).power).toNat
          (raise (-s.power).toNat s)
        refine Nat.le_trans (normalized_go_scale_le _) ?_
        simp only
        omega

end Amount

/-! ### Line items -/

/-- A finite float that is not negative and is converted to this amount. -/
def Binary64.Converts (x : Binary64) (a : Amount) : Prop :=
  ∃ f, x = .finite f ∧ 0 ≤ f.value ∧ Amount.ofFinite? f = some a

theorem LineItem.price_eq_ok_iff {item : LineItem} {a : Amount} :
    item.price = .ok a ↔ item.unitPrice.Converts a := by
  unfold price Binary64.Converts
  cases item.unitPrice with
  | nan => simp
  | infinite s => simp
  | finite f =>
      by_cases hnegative : f.value < 0
      · simp [hnegative]
      · cases hamount : Amount.ofFinite? f <;>
          simp [hnegative, Int.not_lt.mp hnegative, hamount]

section Sums

variable (price : Binary64 → Amount)

/-- How many units of `10 ^ -scale` an item costs. -/
def LineItem.unitsAt (scale : Nat) (item : LineItem) : Nat :=
  (price item.unitPrice).unitsAt scale * item.quantity.toNat

/-- How many units of `10 ^ -scale` all items cost. -/
def unitsAt (scale : Nat) (items : List LineItem) : Nat :=
  (items.map (LineItem.unitsAt price scale)).sum

/-- Every item has a price no finer than the scale, and in units of the scale they fit. -/
structure FitsAt (scale : Nat) (items : List LineItem) : Prop where
  converts : ∀ item ∈ items, item.unitPrice.Converts (price item.unitPrice)
  scale_le : ∀ item ∈ items, (price item.unitPrice).scale ≤ scale
  scale_le_max : scale ≤ Amount.maxScale
  units_lt : unitsAt price scale items < Amount.limit

/-- The finest scale of the prices. -/
def finestScale (items : List LineItem) : Nat :=
  (items.map fun item => (price item.unitPrice).scale).foldr max 0

end Sums

variable {price : Binary64 → Amount} {scale : Nat} {items others before after : List LineItem}
  {item : LineItem}

@[simp] theorem unitsAt_append :
    unitsAt price scale (before ++ after) =
      unitsAt price scale before + unitsAt price scale after := by
  simp [unitsAt]

@[simp] theorem unitsAt_cons :
    unitsAt price scale (item :: items) =
      item.unitsAt price scale + unitsAt price scale items := by
  simp [unitsAt]

/-! ### Sums -/

theorem unitsAt_perm (h : others.Perm items) :
    unitsAt price scale others = unitsAt price scale items := (h.map _).sum_nat

theorem FitsAt.perm (h : FitsAt price scale items) (hperm : others.Perm items) :
    FitsAt price scale others where
  converts item hitem := h.converts item (hperm.subset hitem)
  scale_le item hitem := h.scale_le item (hperm.subset hitem)
  scale_le_max := h.scale_le_max
  units_lt := by
    rw [unitsAt_perm hperm]
    exact h.units_lt

theorem FitsAt.left (h : FitsAt price scale (before ++ after)) : FitsAt price scale before where
  converts item hitem := h.converts item (List.mem_append_left _ hitem)
  scale_le item hitem := h.scale_le item (List.mem_append_left _ hitem)
  scale_le_max := h.scale_le_max
  units_lt := by
    have hlt := h.units_lt
    rw [unitsAt_append] at hlt
    omega

/-- One item more is one exact product and one exact sum. -/
theorem addLine_isUnits {sum : Amount} {units : Nat} (hsum : sum.IsUnits scale units)
    (hprice : item.unitPrice.Converts (price item.unitPrice))
    (hscale : (price item.unitPrice).scale ≤ scale) (hmax : scale ≤ Amount.maxScale)
    (hfits : units + item.unitsAt price scale < Amount.limit) :
    ∃ line next, (price item.unitPrice).times? item.quantity.toNat = some line ∧
      line.IsUnits scale (item.unitsAt price scale) ∧ sum.add? line = some next ∧
      next.IsUnits scale (units + item.unitsAt price scale) ∧ addLine sum item = .ok next := by
  have hproduct : item.unitsAt price scale < Amount.limit := by omega
  obtain ⟨line, htimes, hline⟩ := (Amount.isUnits_unitsAt hscale).times? hmax hproduct
  obtain ⟨next, hadd, hnext⟩ := hsum.add? hline hmax hfits
  refine ⟨line, next, htimes, hline, hadd, hnext, ?_⟩
  simp only [addLine, LineItem.price_eq_ok_iff.mpr hprice, bind, Except.bind, htimes,
    Option.bind_some, hadd]
  rfl

/-- By induction on the items: after each of them the sum is the units so far. -/
theorem foldlM_addLine_isUnits {start : Amount} {units : Nat} (hstart : start.IsUnits scale units)
    (hitems : FitsAt price scale items)
    (hfits : units + unitsAt price scale items < Amount.limit) :
    ∃ sum, items.foldlM addLine start = .ok sum ∧
      sum.IsUnits scale (units + unitsAt price scale items) := by
  induction items generalizing start units with
  | nil => exact ⟨start, rfl, hstart⟩
  | cons item items ih =>
      rw [unitsAt_cons, ← Nat.add_assoc] at hfits ⊢
      obtain ⟨line, next, -, -, -, hnext, hadd⟩ := addLine_isUnits hstart
        (hitems.converts item List.mem_cons_self) (hitems.scale_le item List.mem_cons_self)
        hitems.scale_le_max (by omega)
      have hlast : (items ++ [item]).Perm (item :: items) := List.perm_append_comm
      have hrest : FitsAt price scale items := (hitems.perm hlast).left
      rw [List.foldlM_cons, hadd]
      exact ih hnext hrest hfits

theorem FitsAt.sumLines_isUnits (h : FitsAt price scale items) :
    ∃ sum, sumLines items = .ok sum ∧ sum.IsUnits scale (unitsAt price scale items) := by
  have hfits : 0 + unitsAt price scale items < Amount.limit := by
    rw [Nat.zero_add]
    exact h.units_lt
  simpa only [Nat.zero_add, sumLines] using foldlM_addLine_isUnits Amount.zero_isUnits h hfits

/-- The total is a function of the number of units. -/
theorem FitsAt.orderTotal_eq (h : FitsAt price scale items) :
    orderTotal items =
      .ok (Amount.normalized.go scale (unitsAt price scale items)).toBinary64 := by
  obtain ⟨sum, hsum, hunits⟩ := h.sumLines_isUnits
  rw [orderTotal, hsum, ← hunits.normalized_eq]
  rfl

theorem FitsAt.units_value (h : FitsAt price scale items) :
    (unitsAt price scale items / 10 ^ scale : ℚ) =
      (items.map fun item => item.quantity.toNat * (price item.unitPrice).value).sum := by
  have hscales := h.scale_le
  clear h
  induction items with
  | nil => simp [unitsAt]
  | cons item items ih =>
      obtain ⟨hitem, hitems⟩ := List.forall_mem_cons.mp hscales
      rw [unitsAt_cons, List.map_cons, List.sum_cons, ← ih hitems,
        (Amount.isUnits_unitsAt hitem).value_eq, LineItem.unitsAt]
      push_cast
      ring

theorem scale_le_finestScale :
    ∀ item ∈ items, (price item.unitPrice).scale ≤ finestScale price items := by
  induction items with
  | nil => simp
  | cons item items ih =>
      refine List.forall_mem_cons.mpr ⟨Nat.le_max_left .., fun other hother => ?_⟩
      exact Nat.le_trans (ih other hother) (Nat.le_max_right ..)

theorem finestScale_le
    (h : ∀ item ∈ items, item.unitPrice.Converts (price item.unitPrice)) :
    finestScale price items ≤ Amount.maxScale := by
  induction items with
  | nil => exact Nat.zero_le _
  | cons item items ih =>
      obtain ⟨⟨f, -, -, hamount⟩, hitems⟩ := List.forall_mem_cons.mp h
      exact Nat.max_le.mpr ⟨Amount.ofFinite?_scale_le hamount, ih hitems⟩

theorem fitsAt_finestScale
    (hconverts : ∀ item ∈ items, item.unitPrice.Converts (price item.unitPrice))
    (hfits : unitsAt price (finestScale price items) items < 2 ^ 96) :
    FitsAt price (finestScale price items) items where
  converts := hconverts
  scale_le := scale_le_finestScale
  scale_le_max := finestScale_le hconverts
  units_lt := hfits

/-- Neither the product nor the sum that an item brings is rounded. -/
theorem FitsAt.step_exact (h : FitsAt price scale (before ++ item :: after)) :
    ∃ sum line next, sumLines before = .ok sum ∧
      (price item.unitPrice).times? item.quantity.toNat = some line ∧
      line.value = item.quantity.toNat * (price item.unitPrice).value ∧
      sum.add? line = some next ∧ next.value = sum.value + line.value ∧
      sumLines (before ++ [item]) = .ok next := by
  have hmem : item ∈ before ++ item :: after := by simp
  have hscale := h.scale_le item hmem
  have hlt := h.units_lt
  rw [unitsAt_append, unitsAt_cons] at hlt
  obtain ⟨sum, hsum, hunits⟩ := h.left.sumLines_isUnits
  obtain ⟨line, next, htimes, hline, hadd, hnext, hstep⟩ := addLine_isUnits hunits
    (h.converts item hmem) hscale h.scale_le_max (by omega)
  refine ⟨sum, line, next, hsum, htimes, ?_, hadd, ?_, ?_⟩
  · rw [hline.value_eq, (Amount.isUnits_unitsAt hscale).value_eq, LineItem.unitsAt]
    push_cast
    ring
  · rw [hnext.value_eq, hunits.value_eq, hline.value_eq]
    push_cast
    ring
  · rw [sumLines] at hsum ⊢
    rw [List.foldlM_append, hsum]
    simp only [bind, Except.bind, List.foldlM_cons, hstep]
    rfl

theorem FitsAt.split {first second : LineItem}
    (h : FitsAt price scale (before ++ item :: after))
    (hfirst : first.unitPrice = item.unitPrice) (hsecond : second.unitPrice = item.unitPrice)
    (hquantity : first.quantity.toNat + second.quantity.toNat = item.quantity.toNat) :
    FitsAt price scale (before ++ first :: second :: after) ∧
      unitsAt price scale (before ++ first :: second :: after) =
        unitsAt price scale (before ++ item :: after) := by
  have hunits : unitsAt price scale (before ++ first :: second :: after) =
      unitsAt price scale (before ++ item :: after) := by
    simp only [unitsAt_append, unitsAt_cons, LineItem.unitsAt, hfirst, hsecond, ← hquantity,
      Nat.mul_add, Nat.add_assoc]
  -- the prices of the two are the price of the item that they replace
  have hprices : ∀ other ∈ before ++ first :: second :: after,
      ∃ old ∈ before ++ item :: after, other.unitPrice = old.unitPrice := by
    intro other hother
    simp only [List.mem_append, List.mem_cons] at hother
    rcases hother with hother | rfl | rfl | hother
    · exact ⟨other, by simp [hother], rfl⟩
    · exact ⟨item, by simp, hfirst⟩
    · exact ⟨item, by simp, hsecond⟩
    · exact ⟨other, by simp [hother], rfl⟩
  refine ⟨⟨fun other hother => ?_, fun other hother => ?_, h.scale_le_max, ?_⟩, hunits⟩
  · obtain ⟨old, hold, heq⟩ := hprices other hother
    exact heq ▸ h.converts old hold
  · obtain ⟨old, hold, heq⟩ := hprices other hother
    exact heq ▸ h.scale_le old hold
  · exact hunits ▸ h.units_lt

/-- If the sum fits at the finest scale of its prices, the total is the float of the exact sum, no
product and no sum on the way is rounded, and neither the order of the items nor a distribution of
one item over two changes the total. -/
theorem orderTotal_exact (price : Binary64 → Amount) (items : List LineItem)
    (hconverts : ∀ item ∈ items, item.unitPrice.Converts (price item.unitPrice))
    (hfits : unitsAt price (finestScale price items) items < 2 ^ 96) :
    (∃ sum, sumLines items = .ok sum ∧ orderTotal items = .ok sum.normalized.toBinary64 ∧
      sum.normalized.value =
        (items.map fun item => item.quantity.toNat * (price item.unitPrice).value).sum) ∧
    (∀ before item after, items = before ++ item :: after →
      ∃ sum line next, sumLines before = .ok sum ∧
        (price item.unitPrice).times? item.quantity.toNat = some line ∧
        line.value = item.quantity.toNat * (price item.unitPrice).value ∧
        sum.add? line = some next ∧ next.value = sum.value + line.value ∧
        sumLines (before ++ [item]) = .ok next) ∧
    (∀ others, others.Perm items → orderTotal others = orderTotal items) ∧
    ∀ before item after first second, items = before ++ item :: after →
      first.unitPrice = item.unitPrice → second.unitPrice = item.unitPrice →
      first.quantity.toNat + second.quantity.toNat = item.quantity.toNat →
      orderTotal (before ++ first :: second :: after) = orderTotal items := by
  have hitems : FitsAt price (finestScale price items) items := fitsAt_finestScale hconverts hfits
  generalize finestScale price items = scale at hitems
  refine ⟨?_, ?_, ?_, ?_⟩
  · obtain ⟨sum, hsum, hunits⟩ := hitems.sumLines_isUnits
    refine ⟨sum, hsum, by rw [orderTotal, hsum]; rfl, ?_⟩
    rw [Amount.normalized_value, hunits.value_eq, hitems.units_value]
  · rintro before item after rfl
    exact hitems.step_exact
  · intro others hperm
    rw [(hitems.perm hperm).orderTotal_eq, hitems.orderTotal_eq, unitsAt_perm hperm]
  · rintro before item after first second rfl hfirst hsecond hquantity
    obtain ⟨hsplit, hunits⟩ := hitems.split hfirst hsecond hquantity
    rw [hsplit.orderTotal_eq, hitems.orderTotal_eq, hunits]

/-- The float next to `0.1`. -/
def nearTenth : Binary64.Finite :=
  { negative := false, mantissa := 0x1999999999999a, exponent := 1018 }

/-- The float `12.25`. -/
def twelveAndQuarter : Binary64.Finite :=
  { negative := false, mantissa := 0x18800000000000, exponent := 1025 }

/-- Two items whose prices have different scales. -/
def mixedItems : List LineItem :=
  [⟨"Tea", 3, .finite nearTenth⟩, ⟨"Cake", 2, .finite twelveAndQuarter⟩]

theorem orderTotal_exact_mixed :
    ∃ sum, sumLines mixedItems = .ok sum ∧
      orderTotal mixedItems = .ok sum.normalized.toBinary64 ∧ sum.normalized.value = 124 / 5 := by
  let price : Binary64 → Amount := fun x => if x = .finite nearTenth then ⟨1, 1⟩ else ⟨1225, 2⟩
  have hconverts : ∀ item ∈ mixedItems, item.unitPrice.Converts (price item.unitPrice) := by
    refine List.forall_mem_cons.mpr ⟨⟨nearTenth, rfl, ?_, ?_⟩,
      List.forall_mem_singleton.mpr ⟨twelveAndQuarter, rfl, ?_, ?_⟩⟩ <;> decide +kernel
  have hfits : unitsAt price (finestScale price mixedItems) mixedItems < 2 ^ 96 := by
    decide +kernel
  obtain ⟨⟨sum, hsum, htotal, hvalue⟩, -⟩ := orderTotal_exact price mixedItems hconverts hfits
  refine ⟨sum, hsum, htotal, hvalue.trans ?_⟩
  have htea : price (.finite nearTenth) = ⟨1, 1⟩ := rfl
  have hcake : price (.finite twelveAndQuarter) = ⟨1225, 2⟩ := rfl
  have hthree : (3 : UInt32).toNat = 3 := rfl
  have htwo : (2 : UInt32).toNat = 2 := rfl
  simp only [mixedItems, List.map_cons, List.map_nil, htea, hcake, hthree, htwo, Amount.value]
  norm_num

end OrderDesk
