import Mathlib.Tactic.Common
import OrderDesk.Proofs.Acceptance

/-! # Sorted records

A backend compares records key by key, and a key by the first values that it reaches. Values of
different kinds count as equal, so not every list of values could be sorted that way. But a path
reaches values of one kind only in all orders whose numbers are finite. On such orders each
comparison is a total preorder, and a stable sort under it leaves no choice.
-/

namespace OrderDesk

open OrderDesk.Filter (Request SortKey)

/-! ### Comparisons that order -/

section Comparing

variable {α β κ : Type} {P : α → Prop} {compare other : α → α → Ordering}

/-- On the values with a property, a comparison is a total preorder. -/
abbrev OrdersOn (P : α → Prop) (compare : α → α → Ordering) : Prop :=
  Std.TransCmp fun a b : Subtype P => compare a.1 b.1

namespace OrdersOn

theorem eq_swap (h : OrdersOn P compare) {a b : α} (ha : P a) (hb : P b) :
    compare a b = (compare b a).swap :=
  @Std.OrientedCmp.eq_swap _ _ h.toOrientedCmp ⟨a, ha⟩ ⟨b, hb⟩

theorem isLE_trans (h : OrdersOn P compare) {a b c : α} (ha : P a) (hb : P b) (hc : P c)
    (hab : (compare a b).isLE = true) (hbc : (compare b c).isLE = true) :
    (compare a c).isLE = true :=
  @Std.TransCmp.isLE_trans _ _ h ⟨a, ha⟩ ⟨b, hb⟩ ⟨c, hc⟩ hab hbc

theorem of_eq_swap (hswap : ∀ a b, P a → P b → compare a b = (compare b a).swap)
    (htrans : ∀ a b c, P a → P b → P c → (compare a b).isLE = true → (compare b c).isLE = true →
      (compare a c).isLE = true) : OrdersOn P compare where
  eq_swap := hswap _ _ (Subtype.prop _) (Subtype.prop _)
  isLE_trans := htrans _ _ _ (Subtype.prop _) (Subtype.prop _) (Subtype.prop _)

/-- A comparison of what a function makes of the values. -/
theorem comap {Q : β → Prop} {compare : β → β → Ordering} (h : OrdersOn Q compare) {f : α → β}
    (hf : ∀ a, P a → Q (f a)) : OrdersOn P fun a b => compare (f a) (f b) :=
  of_eq_swap (fun _ _ ha hb => h.eq_swap (hf _ ha) (hf _ hb))
    fun _ _ _ ha hb hc => h.isLE_trans (hf _ ha) (hf _ hb) (hf _ hc)

theorem mono {Q : α → Prop} (h : OrdersOn Q compare) (hQ : ∀ a, P a → Q a) :
    OrdersOn P compare := h.comap hQ

theorem congr (h : OrdersOn P other) (heq : ∀ a b, P a → P b → compare a b = other a b) :
    OrdersOn P compare := by
  have hsame : (fun a b : Subtype P => compare a.1 b.1) = fun a b => other a.1 b.1 :=
    funext fun a => funext fun b => heq a b a.2 b.2
  rw [OrdersOn, hsame]
  exact h

/-- Any function to an ordered type gives an order. -/
theorem of_key [Ord β] [Std.TransOrd β] (key : α → β)
    (h : ∀ a b, P a → P b → compare a b = Ord.compare (key a) (key b)) : OrdersOn P compare :=
  congr (inferInstanceAs (Std.TransCmp (compareOn fun a : Subtype P => key a.1))) h

theorem flip (h : OrdersOn P compare) : OrdersOn P fun a b => compare b a :=
  of_eq_swap (fun _ _ ha hb => h.eq_swap hb ha)
    fun _ _ _ ha hb hc hab hbc => h.isLE_trans hc hb ha hbc hab

theorem swap (h : OrdersOn P compare) : OrdersOn P fun a b => (compare a b).swap :=
  h.flip.congr fun _ _ ha hb => (h.eq_swap hb ha).symm

/-- Comparisons one after the other, of which the first one that tells two values apart decides. -/
theorem foldr {under : κ → α → α → Ordering} {keys : List κ}
    (h : ∀ key ∈ keys, OrdersOn P (under key)) :
    OrdersOn P fun a b => keys.foldr (fun key rest => (under key a b).then rest) .eq := by
  induction keys with
  | nil => exact of_eq_swap (fun _ _ _ _ => rfl) fun _ _ _ _ _ _ _ _ => rfl
  | cons key keys ih =>
      obtain ⟨hkey, hkeys⟩ := List.forall_mem_cons.mp h
      have hrest := ih hkeys
      exact inferInstanceAs (Std.TransCmp (compareLex (fun a b : Subtype P => under key a.1 b.1)
        fun a b => keys.foldr (fun key rest => (under key a.1 b.1).then rest) .eq))

end OrdersOn

/-- A comparison that puts what is missing first. -/
def missingFirst (compare : α → α → Ordering) : Option α → Option α → Ordering
  | none, none => .eq
  | none, some _ => .lt
  | some _, none => .gt
  | some a, some b => compare a b

/-- A comparison that puts what is missing last. -/
def missingLast (compare : α → α → Ordering) (a b : Option α) : Ordering :=
  missingFirst (fun a b => compare b a) b a

theorem OrdersOn.missingFirst (h : OrdersOn P compare) :
    OrdersOn (fun value : Option α => ∀ a ∈ value, P a) (missingFirst compare) := by
  apply of_eq_swap
  · intro a b ha hb
    cases a with
    | none => cases b <;> rfl
    | some a =>
        cases b with
        | none => rfl
        | some b => exact h.eq_swap (ha a rfl) (hb b rfl)
  · intro a b c ha hb hc hab hbc
    cases a with
    | none => cases c <;> rfl
    | some a =>
        cases b with
        | none => cases hab
        | some b =>
            cases c with
            | none => cases hbc
            | some c => exact h.isLE_trans (ha a rfl) (hb b rfl) (hc c rfl) hab hbc

theorem OrdersOn.missingLast (h : OrdersOn P compare) :
    OrdersOn (fun value : Option α => ∀ a ∈ value, P a) (missingLast compare) :=
  h.flip.missingFirst.flip

/-- The keys before one of them do not tell two values apart. -/
def UndecidedUpTo (under : κ → α → α → Ordering) (keys : List κ) (key : κ) (a b : α) : Prop :=
  ∃ before after, keys = before ++ key :: after ∧ ∀ k ∈ before, under k a b = .eq

/-- Values that are not out of order are so under no key either that may decide. -/
theorem UndecidedUpTo.ne_gt {under : κ → α → α → Ordering} {keys : List κ} {key : κ} {a b : α}
    (hundecided : UndecidedUpTo under keys key a b)
    (h : keys.foldr (fun key rest => (under key a b).then rest) .eq ≠ .gt) :
    under key a b ≠ .gt := by
  obtain ⟨before, after, rfl, hbefore⟩ := hundecided
  induction before with
  | nil =>
      intro hkey
      rw [List.nil_append, List.foldr_cons, hkey] at h
      exact h rfl
  | cons k before ih =>
      obtain ⟨hk, hbefore⟩ := List.forall_mem_cons.mp hbefore
      rw [List.cons_append, List.foldr_cons, hk] at h
      exact ih hbefore h

end Comparing

/-! ### Stable sorts -/

section Sorting

variable {α : Type} {compare : α → α → Ordering} {records : List α}

/-- A comparison is a total preorder on some records, and swapping its arguments reverses it. -/
structure IsPreorderOn (compare : α → α → Ordering) (records : List α) : Prop where
  refl : ∀ a ∈ records, compare a a = .eq
  swap : ∀ a ∈ records, ∀ b ∈ records, compare b a = (compare a b).swap
  total : ∀ a ∈ records, ∀ b ∈ records, compare a b ≠ .gt ∨ compare b a ≠ .gt
  trans : ∀ a ∈ records, ∀ b ∈ records, ∀ c ∈ records,
    compare a b ≠ .gt → compare b c ≠ .gt → compare a c ≠ .gt

/-- Records in the order of a comparison. Those that it does not tell apart stay in sequence. -/
structure IsStableSort (compare : α → α → Ordering) (records sorted : List α) : Prop where
  perm : sorted.Perm records
  ordered : sorted.Pairwise fun a b => compare a b ≠ .gt
  stable : ∀ a ∈ records,
    sorted.filter (compare a · = .eq) = records.filter (compare a · = .eq)

theorem OrdersOn.isPreorderOn (h : OrdersOn (· ∈ records) compare) :
    IsPreorderOn compare records where
  refl a ha := by
    have hself := h.eq_swap ha ha
    cases hcompare : compare a a <;> simp_all
  swap a ha b hb := h.eq_swap hb ha
  total a ha b hb := by
    rw [h.eq_swap hb ha]
    cases compare a b <;> simp
  trans a ha b hb c hc hab hbc := by
    rw [ne_eq, Ordering.ne_gt_iff_isLE] at hab hbc ⊢
    exact h.isLE_trans ha hb hc hab hbc

/-- Sorting by merging is stable. -/
theorem OrdersOn.isStableSort (records : List α) (h : OrdersOn (· ∈ records) compare) :
    IsStableSort compare records (records.mergeSort fun a b => compare a b != .gt) := by
  let le (a b : {a // a ∈ records}) : Bool := compare a.1 b.1 != .gt
  have hle : ∀ a b, le a b = true ↔ (compare a.1 b.1).isLE = true := by
    intro a b
    rw [Ordering.isLE_iff_ne_gt, ← ne_eq, ← bne_iff_ne]
  have htrans : ∀ a b c, le a b = true → le b c = true → le a c = true := by
    intro a b c
    simp only [hle]
    exact h.isLE_trans a.2 b.2 c.2
  have htotal : ∀ a b, (le a b || le b a) = true := by
    intro a b
    rw [Bool.or_eq_true, hle, hle, h.eq_swap b.2 a.2]
    cases compare a.1 b.1 <;> simp
  have hsorted : records.mergeSort (fun a b => compare a b != .gt) =
      (records.attach.mergeSort le).map Subtype.val := by
    rw [List.map_mergeSort (s := fun a b => compare a b != .gt) fun _ _ _ _ => rfl,
      List.attach_map_subtype_val]
  refine ⟨List.mergeSort_perm _ _, ?_, ?_⟩
  · rw [hsorted, List.pairwise_map]
    refine (List.pairwise_mergeSort htrans htotal _).imp fun {a b} hab => ?_
    simpa [le] using hab
  · intro a ha
    let alike (b : {a // a ∈ records}) : Bool := decide (compare a b.1 = .eq)
    have hfilter : ∀ l : List {a // a ∈ records},
        (l.map Subtype.val).filter (compare a · = .eq) = (l.filter alike).map Subtype.val :=
      fun l => List.filter_map
    -- What compares alike is in order however it is arranged, so the sort leaves it in sequence.
    have halike : (records.attach.filter alike).Pairwise fun b c => le b c = true := by
      apply List.pairwise_of_forall_mem_list
      intro b hb c hc
      have hb : compare a b.1 = .eq := by simpa [alike] using (List.mem_filter.mp hb).2
      have hc : compare a c.1 = .eq := by simpa [alike] using (List.mem_filter.mp hc).2
      rw [hle]
      refine h.isLE_trans b.2 ha c.2 ?_ (by rw [hc]; rfl)
      rw [h.eq_swap b.2 ha, hb]
      rfl
    have hsublist := (List.sublist_mergeSort htrans htotal halike List.filter_sublist).filter alike
    rw [List.filter_filter] at hsublist
    simp only [Bool.and_self] at hsublist
    have hlength := ((List.mergeSort_perm records.attach le).filter alike).length_eq
    have hsame := hsublist.eq_of_length hlength.symm
    rw [hsorted, hfilter, ← hsame, ← hfilter, List.attach_map_subtype_val]

end Sorting

/-! ### Values of one kind -/

theorem Binary64.exists_rank_ofRatio (negative : Bool) (num den : Nat) :
    ∃ rank, (ofRatio negative num den).rank? = some rank := by
  have hparts : ∀ mantissa exponent, ∃ rank, (ofParts negative mantissa exponent).rank? =
      some rank := by
    intro mantissa exponent
    unfold ofParts
    split
    · exact ⟨_, rfl⟩
    · exact ⟨_, rfl⟩
  unfold ofRatio ofUnits
  simp only
  split
  · exact hparts _ _
  · exact hparts _ _

/-- No JSON number is undefined as a float. -/
theorem Json.Number.exists_rank (n : Json.Number) : ∃ rank, n.toBinary64.rank? = some rank := by
  cases n with
  | natural n => exact Binary64.exists_rank_ofRatio _ _ _
  | negative n range => exact Binary64.exists_rank_ofRatio _ _ _
  | float x => exact ⟨_, rfl⟩

namespace Json

/-- The place of a number among the numbers. -/
def rank (v : Json) : Int := (v.asBinary64?.bind Binary64.rank?).getD 0

/-- The kinds of values that an order has at the end of a path. -/
inductive Kind where
  | number
  | text
  | container

/-- Whether a value is of a kind. -/
def Kind.Holds : Kind → Json → Prop
  | number, .number _ => True
  | text, .string _ => True
  | container, .array _ | container, .object _ => True
  | _, _ => False

end Json

open Json (Kind)

namespace Search

theorem compareValues_numbers (m n : Json.Number) :
    compareValues (.number m) (.number n) =
      compare (Json.rank (.number m)) (Json.rank (.number n)) := by
  obtain ⟨i, hi⟩ := m.exists_rank
  obtain ⟨j, hj⟩ := n.exists_rank
  simp [compareValues, Json.rank, Json.asBinary64?, Binary64.compare?, hi, hj]

/-- Values of one kind are ordered: numbers and texts as such, and all containers are alike. -/
theorem ordersOn_kind (k : Kind) : OrdersOn k.Holds compareValues := by
  cases k with
  | number =>
      refine .of_key Json.rank fun v w hv hw => ?_
      cases v <;> cases hv
      cases w <;> cases hw
      exact compareValues_numbers _ _
  | text =>
      refine .of_key (fun v => v.asString?.getD "") fun v w hv hw => ?_
      cases v <;> cases hv
      cases w <;> cases hw
      rfl
  | container =>
      have halike : ∀ v w, Kind.container.Holds v → Kind.container.Holds w →
          compareValues v w = .eq := by
        intro v w hv hw
        cases v <;> cases hv <;> cases w <;> cases hw <;> rfl
      refine .of_eq_swap (fun v w hv hw => ?_) fun u v w hu hv hw _ _ => ?_
      · rw [halike v w hv hw, halike w v hw hv]
        rfl
      · rw [halike u w hu hw]
        rfl

/-! ### One kind for each path -/

theorem kind_ofBinary64 {x : Binary64} (h : x.isFinite = true) :
    Kind.number.Holds (.ofBinary64 x) := by
  cases x with
  | finite x => trivial
  | nan | infinite s => cases h

/-- All values at one place of finite line items are of one kind. -/
theorem exists_kind_below_item (segment : String) :
    ∃ k : Kind, k ≠ .container ∧ ∀ item : LineItem, item.unitPrice.isFinite = true →
      ∀ v ∈ below segment item.toJson, k.Holds v := by
  by_cases hname : segment = "name"
  · subst hname
    refine ⟨.text, by simp, fun item _ v hv => ?_⟩
    obtain rfl : v = .string item.name := by
      simpa [LineItem.toJson, below, Fields.get?_cons] using hv
    trivial
  · refine ⟨.number, by simp, fun item hprice v hv => ?_⟩
    rw [LineItem.toJson, below, Option.mem_toList] at hv
    have hmem := Fields.mem_of_get? hv
    simp only [List.mem_cons, List.not_mem_nil, or_false, Prod.mk.injEq] at hmem
    rcases hmem with ⟨heq, -⟩ | ⟨-, rfl⟩ | ⟨-, rfl⟩
    · exact absurd heq hname
    · trivial
    · exact kind_ofBinary64 hprice

/-- All values at one place of finite orders are of one kind. -/
theorem exists_kind_below_order {segment : String} (hitems : segment ≠ "lineItems") :
    ∃ k : Kind, k ≠ .container ∧ ∀ o : Order, o.IsFinite →
      ∀ v ∈ below segment o.toJson, k.Holds v := by
  by_cases htotal : segment = "total"
  · subst htotal
    refine ⟨.number, by simp, fun o ho v hv => ?_⟩
    obtain rfl : v = .ofBinary64 o.total := by
      simpa [Order.toJson, below, Fields.get?_cons] using hv
    exact kind_ofBinary64 ho.total
  · refine ⟨.text, by simp, fun o _ v hv => ?_⟩
    rw [Order.toJson, below, Option.mem_toList] at hv
    have hmem := Fields.mem_of_get? hv
    simp only [List.mem_cons, List.not_mem_nil, or_false, Prod.mk.injEq] at hmem
    rcases hmem with ⟨-, rfl⟩ | ⟨-, rfl⟩ | ⟨-, rfl⟩ | ⟨-, rfl⟩ | ⟨-, rfl⟩ | ⟨heq, -⟩ | ⟨heq, -⟩ |
      ⟨-, rfl⟩ | ⟨-, rfl⟩
    case inr.inr.inr.inr.inr.inl => exact absurd heq hitems
    case inr.inr.inr.inr.inr.inr.inl => exact absurd heq htotal
    all_goals trivial

theorem isScalar_of_kind {k : Kind} (hk : k ≠ .container) {v : Json} (h : k.Holds v) :
    v.isScalar = true := by
  cases v with
  | null | boolean b | number n | string s => rfl
  | array items | object members => cases k <;> first | exact absurd rfl hk | cases h

theorem unfolded_of_isScalar {v : Json} (h : v.isScalar = true) : unfolded v = [v] := by
  cases v with
  | array items => cases h
  | null | boolean b | number n | string s | object members => rfl

/-- Numbers and texts lead nowhere else. -/
theorem kind_of_led {k : Kind} (hk : k ≠ .container) {values : List Json}
    (h : ∀ v ∈ values, k.Holds v) (segments : List String) :
    ∀ v ∈ led values segments, k.Holds v := by
  cases segments with
  | nil => exact h
  | cons segment rest =>
      have hnone : values.flatMap (below segment) = [] := by
        rw [List.flatMap_eq_nil_iff]
        exact fun v hv => below_of_isScalar (isScalar_of_kind hk (h v hv)) segment
      rw [led_cons, hnone, led_of_nil]
      exact List.forall_mem_nil _

/-- A path leads to the line items as a whole, or to values of one kind. -/
theorem led_kind (path : String) :
    (∀ o : Order, led [o.toJson] (FieldPath.segments path) =
        [.array (o.lineItems.map LineItem.toJson)]) ∨
      ∃ k : Kind, k ≠ .container ∧ ∀ o : Order, o.IsFinite →
        ∀ v ∈ led [o.toJson] (FieldPath.segments path), k.Holds v := by
  cases hsegments : FieldPath.segments path with
  | nil =>
      rw [FieldPath.segments, List.map_eq_nil_iff] at hsegments
      exact absurd hsegments (FieldPath.split_ne_nil _ _)
  | cons segment rest =>
      by_cases hitems : segment = "lineItems"
      · subst hitems
        cases rest with
        | nil => exact .inl fun o => rfl
        | cons next rest =>
            obtain ⟨k, hk, hbelow⟩ := exists_kind_below_item next
            refine .inr ⟨k, hk, fun o ho => kind_of_led hk (fun v hv => ?_) rest⟩
            obtain ⟨item, hitem, hv⟩ : ∃ item ∈ o.lineItems, v ∈ below next item.toJson := by
              simpa [Order.toJson, below, Fields.get?_cons, belowItems_eq] using hv
            exact hbelow item (ho.prices item hitem) v hv
      · obtain ⟨k, hk, hbelow⟩ := exists_kind_below_order hitems
        refine .inr ⟨k, hk, fun o ho => kind_of_led hk (fun v hv => ?_) rest⟩
        exact hbelow o ho v (by simpa using hv)

/-- In the index, a path reaches values of one kind in all finite orders. -/
theorem exists_kind_reached (path : String) :
    ∃ k : Kind, ∀ o : Order, o.IsFinite → ∀ v ∈ reached o.toJson path, k.Holds v := by
  rcases led_kind path with hitems | ⟨k, hk, hled⟩
  · refine ⟨.container, fun o _ v hv => ?_⟩
    rw [reached_eq, hitems o] at hv
    obtain ⟨item, -, rfl⟩ : ∃ item ∈ o.lineItems, item.toJson = v := by
      simpa [unfolded] using hv
    trivial
  · refine ⟨k, fun o ho v hv => ?_⟩
    rw [reached_eq, List.mem_flatMap] at hv
    obtain ⟨w, hw, hv⟩ := hv
    have hkind := hled o ho w hw
    rw [unfolded_of_isScalar (isScalar_of_kind hk hkind)] at hv
    rwa [List.mem_singleton.mp hv]

end Search

namespace Documents

theorem unfolded_literal {v : Json} (h : v.isScalar = true) :
    unfolded (literal v) = [literal v] := by
  cases v with
  | array items | object members => cases h
  | number n => exact unfolded_numberLiteral n
  | null | boolean b | string s => rfl

/-- In the store, a path reaches the stored forms of values of one kind in all finite orders. -/
theorem exists_kind_reached {field : String} (hfield : Filter.isReserved field = false) :
    ∃ k : Kind, ∀ o : Order, o.IsFinite → ∀ b ∈ reached (document o) (storedName field),
      ∃ v, k.Holds v ∧ literal v = b := by
  rcases Search.led_kind field with hitems | ⟨k, hk, hled⟩
  · refine ⟨.container, fun o _ b hb => ?_⟩
    have hvalues : b ∈ ((o.lineItems.map LineItem.toJson) ++
        [Json.array (o.lineItems.map LineItem.toJson)]).map literal := by
      rw [reached_eq, led_document hfield, hitems o] at hb
      simpa [literal, unfolded, literals_eq_map] using hb
    obtain ⟨v, hv, rfl⟩ := List.mem_map.mp hvalues
    refine ⟨v, ?_, rfl⟩
    rcases List.mem_append.mp hv with hitem | hlast
    · obtain ⟨item, -, rfl⟩ := List.mem_map.mp hitem
      trivial
    · rw [List.mem_singleton.mp hlast]
      trivial
  · refine ⟨k, fun o ho b hb => ?_⟩
    rw [reached_eq, led_document hfield, List.flatMap_map, List.mem_flatMap] at hb
    obtain ⟨v, hv, hb⟩ := hb
    have hkind := hled o ho v hv
    refine ⟨v, hkind, ?_⟩
    rw [unfolded_literal (Search.isScalar_of_kind hk hkind)] at hb
    exact (List.mem_singleton.mp hb).symm

theorem compareFirst_eq (vs ws : List Bson) :
    compareFirst vs ws = missingFirst compareValues vs.head? ws.head? := by
  cases vs <;> cases ws <;> rfl

theorem ordersOn_literal (k : Kind) :
    OrdersOn (fun b => ∃ v, k.Holds v ∧ literal v = b) compareValues := by
  have hkind := Search.ordersOn_kind k
  apply OrdersOn.of_eq_swap
  · rintro _ _ ⟨v, hv, rfl⟩ ⟨w, hw, rfl⟩
    rw [compareValues_literal, compareValues_literal]
    exact hkind.eq_swap hv hw
  · rintro _ _ _ ⟨u, hu, rfl⟩ ⟨v, hv, rfl⟩ ⟨w, hw, rfl⟩
    rw [compareValues_literal, compareValues_literal, compareValues_literal]
    exact hkind.isLE_trans hu hv hw

/-- The sort key of the store that a sort key stands for. -/
def sortFlag (key : SortKey) : String × Bson := (storedName key.field, directionFlag key.direction)

/-- A sort key orders the documents of finite orders. -/
theorem ordersOn_compareUnder {key : SortKey} (hfield : Filter.isReserved key.field = false) :
    OrdersOn (fun d => ∃ o : Order, o.IsFinite ∧ d = document o) (compareUnder (sortFlag key)) := by
  obtain ⟨k, hk⟩ := exists_kind_reached hfield
  have hfirst : OrdersOn (fun d => ∃ o : Order, o.IsFinite ∧ d = document o) fun a b =>
      compareFirst (reached a (storedName key.field)) (reached b (storedName key.field)) := by
    simp only [compareFirst_eq]
    apply (ordersOn_literal k).missingFirst.comap
    rintro _ ⟨o, ho, rfl⟩ b hb
    exact hk o ho b (List.mem_of_mem_head? hb)
  cases hdirection : key.direction with
  | ascending =>
      refine hfirst.congr fun a b _ _ => ?_
      rw [compareUnder, sortFlag, isNegative_directionFlag, hdirection]
      rfl
  | descending =>
      refine hfirst.swap.congr fun a b _ _ => ?_
      rw [compareUnder, sortFlag, isNegative_directionFlag, hdirection]
      rfl

theorem ordersOn_compareUnderAll {keys : List SortKey}
    (hfields : ∀ key ∈ keys, Filter.isReserved key.field = false) :
    OrdersOn (fun d => ∃ o : Order, o.IsFinite ∧ d = document o)
      (compareUnderAll (keys.map sortFlag)) := by
  refine OrdersOn.foldr fun flag hflag => ?_
  obtain ⟨key, hkey, rfl⟩ := List.mem_map.mp hflag
  exact ordersOn_compareUnder (hfields key hkey)

end Documents

namespace Search

theorem compareUnder_eq (key : BodyKey) (a b : Json) :
    compareUnder key a b =
      missingLast
        (fun v w => if key.descending then (compareValues v w).swap else compareValues v w)
        (reached a key.field).head? (reached b key.field).head? := by
  rw [compareUnder]
  cases reached a key.field <;> cases reached b key.field <;> rfl

/-- A sort key orders the sources of finite orders. -/
theorem ordersOn_compareUnder (key : BodyKey) :
    OrdersOn (fun source => ∃ o : Order, o.IsFinite ∧ source = o.toJson) (compareUnder key) := by
  obtain ⟨k, hk⟩ := exists_kind_reached key.field
  have hvalues : OrdersOn k.Holds fun v w =>
      if key.descending then (compareValues v w).swap else compareValues v w := by
    cases key.descending with
    | false => exact ordersOn_kind k
    | true => exact (ordersOn_kind k).swap
  have hfirst : OrdersOn (fun source => ∃ o : Order, o.IsFinite ∧ source = o.toJson) fun a b =>
      missingLast
        (fun v w => if key.descending then (compareValues v w).swap else compareValues v w)
        (reached a key.field).head? (reached b key.field).head? := by
    apply hvalues.missingLast.comap
    rintro _ ⟨o, ho, rfl⟩ v hv
    exact hk o ho v (List.mem_of_mem_head? hv)
  exact hfirst.congr fun a b _ _ => compareUnder_eq key a b

theorem ordersOn_compareUnderAll (keys : List BodyKey) :
    OrdersOn (fun source => ∃ o : Order, o.IsFinite ∧ source = o.toJson) (compareUnderAll keys) :=
  OrdersOn.foldr fun key _ => ordersOn_compareUnder key

end Search

/-! ### What is found -/

namespace Documents

/-- A query without paths to keep finds what it selects, sorted by its keys. -/
theorem find_eq_mergeSort (c : Collection) {q : Query} (h : q.projection = none) :
    c.find q = (c.filter fun d => selects d q.filter).mergeSort fun a b =>
      compareUnderAll (q.sort.getD []) a b != .gt := by
  rw [Collection.find, h]
  cases q.sort with
  | some keys => rfl
  | none => exact (List.mergeSort_of_pairwise (List.pairwise_of_forall fun _ _ => rfl)).symm

/-- The compiled sort keys of a valid request with distinct sort fields. -/
theorem sort_ofRequest {r : Request} (hvalid : r.check = .ok ())
    (hsort : (r.sort.map (·.field)).Nodup) :
    (Query.ofRequest r).sort.getD [] = r.sort.map sortFlag := by
  have hflags : Fields.ofEntries (r.sort.map sortFlag) = r.sort.map sortFlag :=
    ofEntries_storedNames _ hsort (Request.isReserved_sort hvalid)
  have hcompiled : (Query.ofRequest r).sort =
      if r.sort.isEmpty then none else some (Fields.ofEntries (r.sort.map sortFlag)) := rfl
  rw [hcompiled, hflags]
  cases r.sort <;> rfl

/-- A document has no value for a sort key. -/
def Lacks (key : SortKey) (d : Document) : Prop := reached d (storedName key.field) = []

theorem lacks_of_compareUnder_ne_gt {key : SortKey} {a b : Document}
    (h : compareUnder (sortFlag key) a b ≠ .gt) :
    if key.direction = .ascending then Lacks key b → Lacks key a
    else Lacks key a → Lacks key b := by
  rw [compareUnder, sortFlag, isNegative_directionFlag] at h
  unfold Lacks
  revert h
  cases key.direction <;> cases reached a (storedName key.field) <;>
    cases reached b (storedName key.field) <;> simp [compareFirst]

end Documents

namespace Search

/-- A source has no value for a sort key. -/
def Lacks (key : SortKey) (source : Json) : Prop := reached source key.field = []

theorem lacks_of_compareUnder_ne_gt {key : SortKey} {a b : Json}
    (h : compareUnder (bodyKey key) a b ≠ .gt) : Lacks key a → Lacks key b := by
  unfold Lacks
  revert h
  rw [compareUnder, bodyKey]
  cases reached a key.field <;> cases reached b key.field <;> simp

end Search

namespace Service

open Documents (Collection Query)
open Search (Index Body)

/-- Both backends sort stably, by a total preorder on the records that they hold. Where the keys
before some key do not decide, the store puts records without a value for it first if the key is
ascending and last if it is descending; the index always puts them last. -/
theorem sorts_stably {store : Collection} {i : Index} {r : Request}
    (hstore : ∀ d ∈ store, ∃ o : Order, o.IsFinite ∧ Documents.ofOrder o = .ok d)
    (hindex : ∀ entry ∈ i.sources, ∃ o : Order, o.IsFinite ∧ entry.2 = o.toJson)
    (hvalid : r.check = .ok ()) (hsort : (r.sort.map (·.field)).Nodup) :
    let inStore := Documents.compareUnderAll ((Query.ofRequest r).sort.getD [])
    let inIndex (a b : String × Json) := Search.compareUnderAll (Body.ofRequest r).sort a.2 b.2
    (IsPreorderOn inStore store ∧
      ∃ found, store.find (.ofRequest r) = found.map (Documents.kept r.fields) ∧
        IsStableSort inStore
          (store.filter fun d => Documents.selects d (Query.ofRequest r).filter) found ∧
        found.Pairwise fun a b => ∀ key,
          UndecidedUpTo (fun k => Documents.compareUnder (Documents.sortFlag k)) r.sort key a b →
          if key.direction = .ascending then Documents.Lacks key b → Documents.Lacks key a
          else Documents.Lacks key a → Documents.Lacks key b) ∧
    IsPreorderOn inIndex i.sources ∧
      ∃ found, i.search (.ofRequest r) = Index.response found.length
          ((found.take 10000).map (i.hit (Body.ofRequest r).kept?)) ∧
        IsStableSort inIndex
          (i.sources.filter fun entry => Search.selects entry.2 (Body.ofRequest r).query) found ∧
        found.Pairwise fun a b => ∀ key,
          UndecidedUpTo (fun k => Search.compareUnder (Search.bodyKey k)) r.sort key a.2 b.2 →
          Search.Lacks key a.2 → Search.Lacks key b.2 := by
  intro inStore inIndex
  have hdocuments : OrdersOn (· ∈ store) inStore := by
    have hkeys := Documents.ordersOn_compareUnderAll (Request.isReserved_sort hvalid)
    rw [← Documents.sort_ofRequest hvalid hsort] at hkeys
    apply hkeys.mono
    intro d hd
    obtain ⟨o, ho, hdocument⟩ := hstore d hd
    rw [Documents.ofOrder_eq] at hdocument
    exact ⟨o, ho, (Except.ok.inj hdocument).symm⟩
  have hsources : OrdersOn (· ∈ i.sources) inIndex :=
    (Search.ordersOn_compareUnderAll (Body.ofRequest r).sort).comap hindex
  refine ⟨⟨hdocuments.isPreorderOn, _, Documents.find_eq_map_kept store r, ?_⟩,
    hsources.isPreorderOn, i.found (.ofRequest r), ?_, ?_⟩
  · have hselected := (hdocuments.mono fun d hd => (List.mem_filter.mp hd).1).isStableSort
      (store.filter fun d => Documents.selects d (Query.ofRequest r).filter)
    rw [Documents.find_eq_mergeSort store rfl]
    refine ⟨hselected, hselected.ordered.imp fun {a b} hab key hundecided => ?_⟩
    have hkeys : Documents.compareUnderAll (r.sort.map Documents.sortFlag) a b ≠ .gt := by
      rwa [← Documents.sort_ofRequest hvalid hsort]
    rw [Documents.compareUnderAll, List.foldr_map] at hkeys
    exact Documents.lacks_of_compareUnder_ne_gt (hundecided.ne_gt hkeys)
  · have hsize : (Body.ofRequest r).size? = some 10000 := Search.size?_ofPlan _
    rw [Index.search, hsize]
  · have hselected := (hsources.mono fun entry hentry => (List.mem_filter.mp hentry).1).isStableSort
      (i.sources.filter fun entry => Search.selects entry.2 (Body.ofRequest r).query)
    refine ⟨hselected, hselected.ordered.imp fun {a b} hab key hundecided => ?_⟩
    have hkeys : Search.compareUnderAll (r.sort.map Search.bodyKey) a.2 b.2 ≠ .gt := by
      have hsorted : (Body.ofRequest r).sort = r.sort.map Search.bodyKey := Search.sort_ofPlan _
      rwa [← hsorted]
    rw [Search.compareUnderAll, List.foldr_map] at hkeys
    exact Search.lacks_of_compareUnder_ne_gt (hundecided.ne_gt hkeys)

/-- Of two orders to one city, the one without line items comes first in the store and last in the
index. -/
theorem sorts_stably_missing_name :
    let o : Order := { id := "b", city := "Bonn" }
    let os := [pensOrder "a" "Bonn", o, pensOrder "c" "Aachen"]
    let store : Collection := os.map Documents.document
    let i : Index := { sources := Search.sources os }
    let r : Request := { sort := [⟨"city", .ascending⟩, ⟨"lineItems.name", .ascending⟩] }
    let inStore := Documents.compareUnderAll ((Query.ofRequest r).sort.getD [])
    let inIndex (a b : String × Json) := Search.compareUnderAll (Body.ofRequest r).sort a.2 b.2
    r.check = .ok () ∧ (r.sort.map (·.field)).Nodup ∧
      IsPreorderOn inStore store ∧
      (∃ found, store.find (.ofRequest r) = found.map (Documents.kept []) ∧
        IsStableSort inStore store found) ∧
      inStore (Documents.document o) (Documents.document (pensOrder "a" "Bonn")) = .lt ∧
      IsPreorderOn inIndex i.sources ∧
      (∃ found, i.search (.ofRequest r) =
          Index.response found.length ((found.take 10000).map (i.hit none)) ∧
        IsStableSort inIndex i.sources found) ∧
      inIndex ("b", o.toJson) ("a", (pensOrder "a" "Bonn").toJson) = .gt := by
  intro o os store i r inStore inIndex
  have hfinite : ∀ o ∈ os, o.IsFinite := by
    have hpens : ∀ id city, (pensOrder id city).IsFinite := fun id city =>
      have hstorable := (pensOrder_isMade id city).isStorable
      ⟨hstorable.total_isFinite, hstorable.prices_isFinite⟩
    simp only [os, List.forall_mem_cons]
    exact ⟨hpens _ _, ⟨rfl, List.forall_mem_nil _⟩, hpens _ _, List.forall_mem_nil _⟩
  have hstore : ∀ d ∈ store, ∃ o : Order, o.IsFinite ∧ Documents.ofOrder o = .ok d :=
    List.forall_mem_map.mpr fun o ho => ⟨o, hfinite o ho, Documents.ofOrder_eq o⟩
  have hindex : ∀ entry ∈ i.sources, ∃ o : Order, o.IsFinite ∧ entry.2 = o.toJson :=
    List.forall_mem_map.mpr fun o ho => ⟨o, hfinite o ho, rfl⟩
  have hvalid : r.check = .ok () := rfl
  have hdistinct : (r.sort.map (·.field)).Nodup := by decide
  obtain ⟨⟨hpreorder, found, hfind, hsorted, -⟩, hpreorder', found', hsearch, hsorted', -⟩ :=
    sorts_stably hstore hindex hvalid hdistinct
  exact ⟨hvalid, hdistinct, hpreorder, ⟨found, hfind, hsorted⟩, by decide +kernel, hpreorder',
    ⟨found', hsearch, hsorted'⟩, by decide +kernel⟩

end Service

end OrderDesk
