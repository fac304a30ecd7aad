import Mathlib.Tactic.Common
import OrderDesk.Documents.Collection
import OrderDesk.Filter.Validity
import OrderDesk.Proofs.Records
import OrderDesk.Search.Index

/-! # Paths into both forms of an order

The stored form of a value in a query has the same shape as the value, so a path leads to the
same places in both. A document differs from the JSON form of its order in the name of the
identity and in the place of it; a path that is not reserved does not tell them apart. Equality
and order of what is reached agree as well.
-/

namespace OrderDesk

/-! ### Segments -/

namespace FieldPath

/-- The parts of a list make the list again. -/
theorem intercalate_split (separator : Char) (cs : List Char) :
    [separator].intercalate (split separator cs) = cs := by
  induction cs with
  | nil => rfl
  | cons c cs ih =>
      unfold split
      split
      · next hsep =>
        cases hsplit : split separator cs with
        | nil => exact absurd hsplit (split_ne_nil separator cs)
        | cons part parts =>
            rw [hsplit] at ih
            rw [List.intercalate_cons_cons, ih, hsep]
            rfl
      · cases hsplit : split separator cs with
        | nil => exact absurd hsplit (split_ne_nil separator cs)
        | cons part parts =>
            rw [hsplit] at ih
            cases parts with
            | nil => simpa using ih
            | cons next parts =>
                rw [List.intercalate_cons_cons] at ih
                simp only [List.intercalate_cons_cons, List.cons_append, ih]

/-- A path is its first segment, or goes on behind it with a point. -/
theorem toList_of_segments {path segment : String} {rest : List String}
    (h : segments path = segment :: rest) :
    (rest = [] ∧ path = segment) ∨
      (rest ≠ [] ∧ (segment.toList ++ ['.']).isPrefixOf path.toList = true) := by
  have hjoin := intercalate_split '.' path.toList
  rw [segments] at h
  cases hsplit : split '.' path.toList with
  | nil => exact absurd hsplit (split_ne_nil _ _)
  | cons part parts =>
      rw [hsplit] at h hjoin
      obtain ⟨rfl, rfl⟩ := List.cons.inj h
      cases parts with
      | nil =>
          refine .inl ⟨rfl, ?_⟩
          rw [List.intercalate_singleton] at hjoin
          rw [hjoin, String.ofList_toList]
      | cons next parts =>
          refine .inr ⟨by simp, ?_⟩
          rw [List.intercalate_cons_cons] at hjoin
          rw [← hjoin, String.toList_ofList, List.isPrefixOf_iff_prefix]
          exact ⟨_, rfl⟩

end FieldPath

/-! ### Where a path leads -/

namespace Search

/-- The values to which segments lead from any of some values. -/
def led (values : List Json) (segments : List String) : List Json :=
  segments.foldl (fun values segment => values.flatMap (below segment)) values

theorem reached_eq (source : Json) (path : String) :
    reached source path = (led [source] (FieldPath.segments path)).flatMap unfolded := rfl

@[simp] theorem led_nil (values : List Json) : led values [] = values := rfl

@[simp] theorem led_cons (values : List Json) (segment : String) (segments : List String) :
    led values (segment :: segments) = led (values.flatMap (below segment)) segments := rfl

/-- Nothing leads on from nothing. -/
@[simp] theorem led_of_nil (segments : List String) : led [] segments = [] := by
  induction segments with
  | nil => rfl
  | cons segment segments ih => exact ih

theorem belowItems_eq (segment : String) (items : List Json) :
    belowItems segment items = items.flatMap (below segment) := by
  induction items with
  | nil => rfl
  | cons item items ih => rw [belowItems, ih, List.flatMap_cons]

theorem below_of_isScalar {v : Json} (h : v.isScalar = true) (segment : String) :
    below segment v = [] := by
  cases v with
  | array items => cases h
  | object members => cases h
  | null | boolean b | number n | string s => rfl

/-- No path leads from scalars to anything but scalars. -/
theorem isScalar_of_led {values : List Json} (h : ∀ v ∈ values, v.isScalar = true)
    (segments : List String) : ∀ v ∈ led values segments, v.isScalar = true := by
  induction segments generalizing values with
  | nil => exact h
  | cons segment segments ih =>
      have hnone : values.flatMap (below segment) = [] := by
        rw [List.flatMap_eq_nil_iff]
        exact fun v hv => below_of_isScalar (h v hv) segment
      rw [led_cons, hnone]
      exact ih (by simp)

theorem asArray?_of_isScalar {v : Json} (h : v.isScalar = true) : v.asArray? = none := by
  cases v with
  | array items => cases h
  | object members | null | boolean b | number n | string s => rfl

theorem isScalar_ofBinary64 (x : Binary64) : (Json.ofBinary64 x).isScalar = true := by
  cases x <;> rfl

theorem isScalar_of_below_item {item : LineItem} {segment : String} {v : Json}
    (h : v ∈ below segment item.toJson) : v.isScalar = true := by
  rw [LineItem.toJson, below, Option.mem_toList] at h
  have hmem := Fields.mem_of_get? h
  simp only [List.mem_cons, List.not_mem_nil, or_false, Prod.mk.injEq] at hmem
  rcases hmem with ⟨-, rfl⟩ | ⟨-, rfl⟩ | ⟨-, rfl⟩
  · rfl
  · rfl
  · exact isScalar_ofBinary64 _

/-- Only the list of line items is no scalar. -/
theorem isScalar_of_below_order {o : Order} {segment : String} {v : Json}
    (hne : segment ≠ "lineItems") (h : v ∈ below segment o.toJson) : v.isScalar = true := by
  rw [Order.toJson, below, Option.mem_toList] at h
  have hmem := Fields.mem_of_get? h
  simp only [List.mem_cons, List.not_mem_nil, or_false, Prod.mk.injEq] at hmem
  rcases hmem with ⟨-, rfl⟩ | ⟨-, rfl⟩ | ⟨-, rfl⟩ | ⟨-, rfl⟩ | ⟨-, rfl⟩ | ⟨hitems, -⟩ | ⟨-, rfl⟩ |
    ⟨-, rfl⟩ | ⟨-, rfl⟩
  · rfl
  · rfl
  · rfl
  · rfl
  · rfl
  · exact absurd hitems hne
  · exact isScalar_ofBinary64 _
  · rfl
  · rfl

/-- What is reached is no array, unless the list of line items is. -/
theorem led_order (segments : List String) :
    (∀ o : Order, led [o.toJson] segments = [.array (o.lineItems.map LineItem.toJson)]) ∨
      ∀ o : Order, ∀ v ∈ led [o.toJson] segments, v.asArray? = none := by
  cases segments with
  | nil =>
      refine .inr fun o v hv => ?_
      rw [led_nil, List.mem_singleton] at hv
      rw [hv]
      rfl
  | cons segment rest =>
      by_cases hitems : segment = "lineItems"
      · subst hitems
        cases rest with
        | nil => exact .inl fun o => rfl
        | cons next rest =>
            refine .inr fun o v hv => asArray?_of_isScalar (isScalar_of_led ?_ rest v hv)
            intro w hw
            obtain ⟨item, -, hw⟩ : ∃ item ∈ o.lineItems, w ∈ below next item.toJson := by
              simpa [Order.toJson, below, Fields.get?_cons, belowItems_eq] using hw
            exact isScalar_of_below_item hw
      · refine .inr fun o v hv => asArray?_of_isScalar (isScalar_of_led ?_ rest v hv)
        intro w hw
        exact isScalar_of_below_order hitems (by simpa using hw)

end Search

/-! ### Queries see the same shape -/

namespace Documents

theorem literals_eq_map (items : List Json) : literals items = items.map literal := by
  induction items with
  | nil => rfl
  | cons item items ih => rw [literals, ih, List.map_cons]

theorem get?_entryLiterals (members : List (String × Json)) (name : String) :
    Fields.get? (entryLiterals members) name = (Fields.get? members name).map literal := by
  induction members with
  | nil => rfl
  | cons member members ih =>
      obtain ⟨key, value⟩ := member
      rw [entryLiterals, entryLiteral, Fields.get?_cons, Fields.get?_cons, ih]
      split <;> rfl

/-- A number is stored as a whole number or as a double. -/
theorem numberLiteral_cases (n : Json.Number) :
    (∃ i, numberLiteral n = .int64 i) ∨ ∃ x, numberLiteral n = .double x := by
  unfold numberLiteral
  cases n.toInt? with
  | some i => exact .inl ⟨_, rfl⟩
  | none => exact .inr ⟨_, rfl⟩

theorem below_numberLiteral (segment : String) (n : Json.Number) :
    below segment (numberLiteral n) = [] := by
  rcases numberLiteral_cases n with ⟨i, h⟩ | ⟨x, h⟩ <;> rw [h] <;> rfl

theorem unfolded_numberLiteral (n : Json.Number) :
    unfolded (numberLiteral n) = [numberLiteral n] := by
  rcases numberLiteral_cases n with ⟨i, h⟩ | ⟨x, h⟩ <;> rw [h] <;> rfl

mutual

/-- The same values lie below a value and below its stored form. -/
theorem below_literal (segment : String) (v : Json) :
    below segment (literal v) = (Search.below segment v).map literal := by
  cases v with
  | null | boolean b | string s => rfl
  | number n => exact below_numberLiteral segment n
  | array items => exact belowItems_literals segment items
  | object members =>
      rw [literal, below, Search.below, get?_entryLiterals, Option.toList_map]

theorem belowItems_literals (segment : String) (items : List Json) :
    belowItems segment (literals items) = (Search.belowItems segment items).map literal := by
  cases items with
  | nil => rfl
  | cons item items =>
      rw [literals, belowItems, Search.belowItems, below_literal segment item,
        belowItems_literals segment items, List.map_append]

end

/-- The values to which segments lead from any of some values. -/
def led (values : List Bson) (segments : List String) : List Bson :=
  segments.foldl (fun values segment => values.flatMap (below segment)) values

theorem reached_eq (d : Document) (path : String) :
    reached d path = (led [.document d] (FieldPath.segments path)).flatMap unfolded := rfl

@[simp] theorem led_nil (values : List Bson) : led values [] = values := rfl

@[simp] theorem led_cons (values : List Bson) (segment : String) (segments : List String) :
    led values (segment :: segments) = led (values.flatMap (below segment)) segments := rfl

theorem led_literal (values : List Json) (segments : List String) :
    led (values.map literal) segments = (Search.led values segments).map literal := by
  induction segments generalizing values with
  | nil => rfl
  | cons segment segments ih =>
      have hbelow : (values.map literal).flatMap (below segment) =
          (values.flatMap (Search.below segment)).map literal := by
        simp only [List.flatMap_map, List.map_flatMap, below_literal]
      rw [led_cons, Search.led_cons, hbelow, ih]

theorem literal_ofBinary64 (x : Binary64) : literal (.ofBinary64 x) = storedFloat x := by
  cases x <;> rfl

theorem literal_lineItem (item : LineItem) : literal item.toJson = storedItem item := by
  have hquantity : item.quantity.toNat < 0x8000000000000000 :=
    Nat.lt_trans item.quantity.toNat_lt (by decide)
  simp only [LineItem.toJson, Json.ofNat, literal, entryLiterals, entryLiteral, numberLiteral,
    Json.Number.toInt?, if_pos hquantity, Int64.ofInt_eq_ofNat, literal_ofBinary64, storedItem]

/-- The document of an order holds the stored forms of the other members, and the identity. -/
theorem document_eq (o : Order) :
    document o = entryLiterals o.otherMembers ++ [(storedId, .string o.id)] := by
  have hitems : literals (o.lineItems.map LineItem.toJson) = o.lineItems.map storedItem := by
    rw [literals_eq_map, List.map_map]
    exact List.map_congr_left fun item _ => literal_lineItem item
  simp only [document, Order.otherMembers, entryLiterals, entryLiteral, literal,
    literal_ofBinary64, hitems, List.cons_append, List.nil_append]

/-- Both forms of an order hold the same under a name that neither has for the identity. -/
theorem below_document {o : Order} {segment : String} (hcaller : segment ≠ callerId)
    (hstored : segment ≠ storedId) :
    below segment (.document (document o)) = (Search.below segment o.toJson).map literal := by
  have hlast : Fields.get? [(storedId, Bson.string o.id)] segment = none := by
    rw [Fields.get?_cons, if_neg (Ne.symm hstored), Fields.get?_nil]
  have hfirst : Fields.get? (("id", Json.string o.id) :: o.otherMembers) segment =
      Fields.get? o.otherMembers segment := by
    have hne : ¬callerId = segment := Ne.symm hcaller
    rw [Fields.get?_cons]
    exact if_neg hne
  rw [below, document_eq, Fields.get?_append, hlast, Option.or_none, get?_entryLiterals,
    Order.toJson_eq, Search.below, hfirst, Option.toList_map]

theorem ne_storedId_of_segments {field segment : String} {rest : List String}
    (h : Filter.isReserved field = false) (hsegments : FieldPath.segments field = segment :: rest) :
    segment ≠ storedId := by
  rintro rfl
  simp only [Filter.isReserved, Bool.or_eq_false_iff, decide_eq_false_iff_not] at h
  rcases FieldPath.toList_of_segments hsegments with ⟨-, heq⟩ | ⟨-, hbelow⟩
  · exact h.1 heq
  · rw [FieldPath.isBelow] at h
    exact absurd hbelow (by rw [storedId, h.2]; decide)

/-- A path that is not reserved leads to the same values in both forms of an order. -/
theorem led_document {field : String} (h : Filter.isReserved field = false) (o : Order) :
    led [.document (document o)] (FieldPath.segments (storedName field)) =
      (Search.led [o.toJson] (FieldPath.segments field)).map literal := by
  by_cases hfield : field = callerId
  · subst hfield
    rfl
  rw [storedName, if_neg hfield]
  cases hsegments : FieldPath.segments field with
  | nil =>
      rw [FieldPath.segments, List.map_eq_nil_iff] at hsegments
      exact absurd hsegments (FieldPath.split_ne_nil _ _)
  | cons segment rest =>
      rw [led_cons, Search.led_cons]
      by_cases hcaller : segment = callerId
      · -- The store has nothing under this name, and the index has no path below a text.
        have hrest : rest ≠ [] := by
          rintro rfl
          rcases FieldPath.toList_of_segments hsegments with ⟨-, heq⟩ | ⟨hne, -⟩
          · exact hfield (heq.trans hcaller)
          · exact hne rfl
        subst hcaller
        cases rest with
        | nil => exact absurd rfl hrest
        | cons next rest =>
            have hstore : [Bson.document (document o)].flatMap (below callerId) = [] := rfl
            have hindex : ([o.toJson].flatMap (Search.below callerId)).flatMap
                (Search.below next) = [] := rfl
            rw [hstore, Search.led_cons, hindex, Search.led_of_nil,
              ← Search.led_of_nil (next :: rest)]
            exact led_literal [] (next :: rest)
      · have hbelow := below_document (o := o) hcaller (ne_storedId_of_segments h hsegments)
        rw [List.flatMap_singleton, List.flatMap_singleton, hbelow, led_literal]

/-- What a path reaches in both forms: in the store, an array counts besides its items. -/
theorem reached_document {field : String} (h : Filter.isReserved field = false) :
    (∀ o, reached (document o) (storedName field) =
        (Search.reached o.toJson field).map literal ++
          [.array ((Search.reached o.toJson field).map literal)]) ∨
      ∀ o, reached (document o) (storedName field) =
        (Search.reached o.toJson field).map literal := by
  rcases Search.led_order (FieldPath.segments field) with harray | hnone
  · refine .inl fun o => ?_
    rw [reached_eq, led_document h, Search.reached_eq, harray o]
    simp [literal, unfolded, Search.unfolded, literals_eq_map]
  · refine .inr fun o => ?_
    rw [reached_eq, led_document h, Search.reached_eq, List.flatMap_map, List.map_flatMap]
    rw [List.flatMap_def, List.flatMap_def]
    congr 1
    refine List.map_congr_left fun v hv => ?_
    have hv := hnone o v hv
    cases v with
    | array items => cases hv
    | number n => exact unfolded_numberLiteral n
    | null | boolean b | string s | object members => rfl

/-! ### Equality and order of what is reached -/

theorem ofInt_natCast (n : Nat) : Binary64.ofInt n = .ofNat n := by
  have hnonneg : ¬(n : Int) < 0 := by omega
  simp [Binary64.ofInt, Binary64.ofNat, hnonneg]

/-- A number in a query keeps its value. -/
theorem number?_numberLiteral (n : Json.Number) :
    (numberLiteral n).number? = some n.toBinary64 := by
  cases n with
  | natural n =>
      by_cases hn : n < 0x8000000000000000
      · have hback : (Int64.ofInt n).toInt = n :=
          Int64.toInt_ofInt_of_le (by omega) (by omega)
        simp only [numberLiteral, Json.Number.toInt?, if_pos hn, Bson.number?, hback,
          ofInt_natCast, Json.Number.toBinary64]
      · simp only [numberLiteral, Json.Number.toInt?, if_neg hn, Bson.number?]
  | negative n range =>
      have hback : (Int64.ofInt n).toInt = n :=
        Int64.toInt_ofInt_of_le (by omega) (by omega)
      simp only [numberLiteral, Json.Number.toInt?, Bson.number?, hback, Json.Number.toBinary64]
  | float x => rfl

/-- Only numbers are stored as numbers. -/
theorem number?_literal (v : Json) : (literal v).number? = v.asBinary64? := by
  cases v with
  | number n => exact number?_numberLiteral n
  | null | boolean b | string s | array items | object members => rfl

theorem same_literal {v w : Json} (hw : Filter.isLiteral w = true)
    (hnumbers : ¬(v.asBinary64?.isSome = true ∧ w.asBinary64?.isSome = true)) :
    (literal v).same (literal w) = v.same w := by
  cases w with
  | null | array items | object members => cases hw
  | number n =>
      cases v with
      | number m => exact absurd ⟨rfl, rfl⟩ hnumbers
      | null | boolean b | string s | array items | object members =>
          rcases numberLiteral_cases n with ⟨i, h⟩ | ⟨x, h⟩ <;>
            simp [literal, h, Bson.same, Json.same]
  | boolean b | string s =>
      cases v with
      | number m =>
          rcases numberLiteral_cases m with ⟨i, h⟩ | ⟨x, h⟩ <;>
            simp [literal, h, Bson.same, Json.same]
      | null | boolean b | string s | array items | object members =>
          simp [literal, Bson.same, Json.same]

/-- A value equals a literal in the store if it does in the index. -/
theorem eqv_literal (v : Json) {w : Json} (hw : Filter.isLiteral w = true) :
    (literal v).eqv (literal w) = Search.equal v w := by
  rw [Bson.eqv, Search.equal, number?_literal, number?_literal]
  cases hv : v.asBinary64? with
  | none => exact same_literal hw (by rw [hv]; simp)
  | some x =>
      cases hw' : w.asBinary64? with
      | none => exact same_literal hw (by rw [hw']; simp)
      | some y => rfl

/-- The order of two values in the store is the one in the index. -/
theorem compareValues_literal (v w : Json) :
    compareValues (literal v) (literal w) = Search.compareValues v w := by
  unfold compareValues
  rw [number?_literal, number?_literal]
  cases v with
  | number m =>
      cases w with
      | number n => rfl
      | null | boolean b | string s | array items | object members =>
          rcases numberLiteral_cases m with ⟨i, h⟩ | ⟨x, h⟩ <;> simp only [literal, h] <;> rfl
  | string s | boolean p =>
      cases w with
      | number n =>
          rcases numberLiteral_cases n with ⟨i, h⟩ | ⟨x, h⟩ <;> simp only [literal, h] <;> rfl
      | null | boolean b | string s | array items | object members => rfl
  | null | array items | object members => cases w <;> rfl

end Documents

end OrderDesk
