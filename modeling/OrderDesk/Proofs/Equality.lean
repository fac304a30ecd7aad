import Mathlib.Data.List.Forall2
import Mathlib.Data.List.Induction
import Mathlib.Data.List.Perm.Subperm
import Mathlib.Tactic.Common
import OrderDesk.Json.Basic
import OrderDesk.Proofs.Fields

/-! # Equality of JSON values

Equality of values looks into arrays item by item and into objects name by name. Where the names in
every object are distinct, as in whatever is read from a text, it is an equivalence: an object has
then no room for members that an equal one lacks.
-/

namespace OrderDesk

/-- Records with as many entries have the same names if the first has only names of the second. -/
theorem Fields.names_perm {α : Type} {as bs : Fields α} (hnodup : (names as).Nodup)
    (hlength : as.length = bs.length) (hsubset : names as ⊆ names bs) :
    (names as).Perm (names bs) := by
  refine (List.subperm_of_subset hnodup hsubset).perm_of_length_le ?_
  rw [names, names, List.length_map, List.length_map]
  exact Nat.le_of_eq hlength.symm

namespace Json

namespace Number

@[simp] theorem same_refl (n : Number) : n.same n = true := by
  cases n <;> simp [same]

theorem same_comm (m n : Number) : m.same n = n.same m := by
  cases m <;> cases n <;> simp [same, eq_comm]

theorem same_trans {l m n : Number} (hlm : l.same m = true) (hmn : m.same n = true) :
    l.same n = true := by
  cases l <;> cases m <;> cases n <;> simp_all [same]

end Number

/-! ### Arrays and objects -/

theorem same_array_iff {as bs : List Json} :
    (array as).same (array bs) = true ↔ List.Forall₂ (fun v w => v.same w = true) as bs := by
  rw [same]
  induction as generalizing bs with
  | nil => cases bs <;> simp [sameItems]
  | cons a as ih => cases bs <;> simp [sameItems, ih]

theorem sameMember_iff {member : String × Json} {bs : List (String × Json)} :
    sameMember member bs = true ↔
      ∃ w, Fields.get? bs member.1 = some w ∧ member.2.same w = true := by
  rw [sameMember]
  cases Fields.get? bs member.1 <;> simp

/-- Equal objects are of one size, and each member of the first is found in the second. -/
theorem same_object_iff {as bs : List (String × Json)} :
    (object as).same (object bs) = true ↔ as.length = bs.length ∧
      ∀ member ∈ as, ∃ w, Fields.get? bs member.1 = some w ∧ member.2.same w = true := by
  have hmembers : sameMembers as bs = true ↔ ∀ member ∈ as, sameMember member bs = true := by
    induction as with
    | nil => simp [sameMembers]
    | cons member as ih => simp [sameMembers, ih]
  simp [same, hmembers, sameMember_iff]

/-- Under each name, equal objects have equal members or none. -/
theorem rel_get?_of_same {as bs : List (String × Json)} (hnodup : (Fields.names as).Nodup)
    (h : (object as).same (object bs) = true) (name : String) :
    Option.Rel (fun v w => v.same w = true) (Fields.get? as name) (Fields.get? bs name) := by
  obtain ⟨hlength, hmembers⟩ := same_object_iff.mp h
  cases hget : Fields.get? as name with
  | some v =>
      obtain ⟨w, hw, hsame⟩ := hmembers _ (Fields.mem_of_get? hget)
      rw [hw]
      exact .some hsame
  | none =>
      have hsubset : Fields.names as ⊆ Fields.names bs := by
        intro other hother
        obtain ⟨member, hmember, rfl⟩ := List.mem_map.mp hother
        obtain ⟨w, hw, -⟩ := hmembers member hmember
        exact List.mem_map.mpr ⟨_, Fields.mem_of_get? hw, rfl⟩
      have hnone : Fields.get? bs name = none := by
        rw [Fields.get?_eq_none, ← (Fields.names_perm hnodup hlength hsubset).mem_iff]
        exact Fields.get?_eq_none.mp hget
      rw [hnone]
      exact .none

theorem exists_of_same_array {as : List Json} {v : Json} (h : (array as).same v = true) :
    ∃ bs, v = array bs := by
  cases v <;> simp [same] at h ⊢

theorem exists_of_same_object {as : List (String × Json)} {v : Json}
    (h : (object as).same v = true) : ∃ bs, v = object bs := by
  cases v <;> simp [same] at h ⊢

/-! ### An equivalence -/

/-- A value in which no object has two members with one name. -/
inductive WellFormed : Json → Prop
  | null : WellFormed null
  | boolean (b : Bool) : WellFormed (boolean b)
  | number (n : Number) : WellFormed (number n)
  | string (s : String) : WellFormed (string s)
  | array {items : List Json} (h : ∀ item ∈ items, WellFormed item) : WellFormed (array items)
  | object {members : List (String × Json)} (hnodup : (Fields.names members).Nodup)
    (h : ∀ member ∈ members, WellFormed member.2) : WellFormed (object members)

theorem WellFormed.items {items : List Json} (h : (Json.array items).WellFormed) :
    ∀ item ∈ items, item.WellFormed := by
  cases h with
  | array h => exact h

theorem WellFormed.nodup {members : List (String × Json)}
    (h : (Json.object members).WellFormed) : (Fields.names members).Nodup := by
  cases h with
  | object hnodup _ => exact hnodup

theorem WellFormed.members {members : List (String × Json)}
    (h : (Json.object members).WellFormed) : ∀ member ∈ members, member.2.WellFormed := by
  cases h with
  | object _ h => exact h

theorem WellFormed.singleton {v : Json} (name : String) (h : v.WellFormed) :
    (Json.object [(name, v)]).WellFormed :=
  .object (by simp [Fields.names]) (List.forall_mem_singleton.mpr h)

theorem WellFormed.same_refl {v : Json} (hv : v.WellFormed) : v.same v = true := by
  induction hv with
  | null | boolean b | number n | string s => simp [same]
  | array h ih => exact same_array_iff.mpr (List.forall₂_same.mpr ih)
  | object hnodup h ih =>
      refine same_object_iff.mpr ⟨rfl, fun member hmember => ?_⟩
      exact ⟨member.2, Fields.get?_of_mem hnodup hmember, ih member hmember⟩

theorem WellFormed.same_symm {v w : Json} (hv : v.WellFormed) (hw : w.WellFormed)
    (h : v.same w = true) : w.same v = true := by
  induction hv generalizing w with
  | null | boolean b | string s => cases hw <;> simp_all [same]
  | number n => cases hw <;> simp_all [same, Number.same_comm]
  | array has ih =>
      obtain ⟨bs, rfl⟩ := exists_of_same_array h
      cases hw with
      | array hbs =>
          rw [same_array_iff] at h ⊢
          induction h with
          | nil => exact .nil
          | cons hhead _ htail =>
              obtain ⟨ihhead, ihtail⟩ := List.forall_mem_cons.mp ih
              obtain ⟨hb, hbs⟩ := List.forall_mem_cons.mp hbs
              exact .cons (ihhead hb hhead) (htail (List.forall_mem_cons.mp has).2 ihtail hbs)
  | @object as hnodup _ ih =>
      obtain ⟨bs, rfl⟩ := exists_of_same_object h
      cases hw with
      | object hnodup' hbs =>
          refine same_object_iff.mpr ⟨(same_object_iff.mp h).1.symm, fun member hmember => ?_⟩
          obtain ⟨name, w⟩ := member
          have hrel := rel_get?_of_same hnodup h name
          rw [Fields.get?_of_mem hnodup' hmember] at hrel
          cases hget : Fields.get? as name with
          | none => rw [hget] at hrel; cases hrel
          | some v =>
              rw [hget, Option.rel_some_some] at hrel
              exact ⟨v, rfl, ih _ (Fields.mem_of_get? hget) (hbs _ hmember) hrel⟩

theorem WellFormed.same_trans {u v w : Json} (hu : u.WellFormed) (huv : u.same v = true)
    (hvw : v.same w = true) : u.same w = true := by
  induction hu generalizing v w with
  | null | boolean b | string s => cases v <;> cases w <;> simp_all [same]
  | number n =>
      cases v <;> cases w <;> simp [same] at huv hvw ⊢
      exact Number.same_trans huv hvw
  | array has ih =>
      obtain ⟨bs, rfl⟩ := exists_of_same_array huv
      obtain ⟨cs, rfl⟩ := exists_of_same_array hvw
      rw [same_array_iff] at huv hvw ⊢
      induction huv generalizing cs with
      | nil => exact hvw
      | cons hhead _ htail =>
          obtain ⟨c, rest, hc, hrest, rfl⟩ := List.forall₂_cons_left_iff.mp hvw
          obtain ⟨ihhead, ihtail⟩ := List.forall_mem_cons.mp ih
          exact .cons (ihhead hhead hc) (htail (List.forall_mem_cons.mp has).2 ihtail rest hrest)
  | object _ _ ih =>
      obtain ⟨bs, rfl⟩ := exists_of_same_object huv
      obtain ⟨cs, rfl⟩ := exists_of_same_object hvw
      rw [same_object_iff] at huv hvw ⊢
      refine ⟨huv.1.trans hvw.1, fun member hmember => ?_⟩
      obtain ⟨v, hv, hsame⟩ := huv.2 member hmember
      obtain ⟨w, hw, hsame'⟩ := hvw.2 _ (Fields.mem_of_get? hv)
      exact ⟨w, hw, ih member hmember hsame hsame'⟩

/-! ### First occurrences -/

theorem isIn_iff {v : Json} {items : List Json} :
    v.isIn items = true ↔ ∃ w ∈ items, v.same w = true := by
  simp [isIn]

theorem isIn_append (v : Json) (items others : List Json) :
    v.isIn (items ++ others) = (v.isIn items || v.isIn others) := List.any_append

theorem isIn_singleton (v w : Json) : v.isIn [w] = v.same w := by
  rw [isIn, List.any_cons, List.any_nil, Bool.or_false]

/-- The items that equal none before them, nor one of some earlier values. -/
def firsts (earlier : List Json) : List Json → List Json
  | [] => []
  | v :: vs =>
    if v.isIn earlier then firsts (earlier ++ [v]) vs else v :: firsts (earlier ++ [v]) vs

/-- Values that are unequal, wherever they stand. -/
def Unequal (items : List Json) : Prop :=
  items.Pairwise fun v w => v.same w = false ∧ w.same v = false

theorem firsts_subset (earlier items : List Json) : firsts earlier items ⊆ items := by
  induction items generalizing earlier with
  | nil => exact List.Subset.refl _
  | cons v vs ih =>
      rw [firsts]
      split
      · exact List.subset_cons_of_subset v (ih _)
      · exact List.cons_subset_cons v (ih _)

/-- What is kept equals none of the earlier values. -/
theorem isIn_of_mem_firsts {earlier items : List Json} {v : Json} (h : v ∈ firsts earlier items) :
    v.isIn earlier = false := by
  induction items generalizing earlier with
  | nil => cases h
  | cons w ws ih =>
      have hrest : v ∈ firsts (earlier ++ [w]) ws → v.isIn earlier = false := by
        intro hmem
        have hboth := ih hmem
        rw [isIn_append, Bool.or_eq_false_iff] at hboth
        exact hboth.1
      rw [firsts] at h
      split at h
      · exact hrest h
      · next hnew =>
        rcases List.mem_cons.mp h with rfl | hmem
        · exact Bool.eq_false_iff.mpr hnew
        · exact hrest hmem

theorem unequal_firsts {earlier items : List Json} (h : ∀ item ∈ items, item.WellFormed) :
    Unequal (firsts earlier items) := by
  induction items generalizing earlier with
  | nil => exact .nil
  | cons v vs ih =>
      obtain ⟨hv, hvs⟩ := List.forall_mem_cons.mp h
      rw [firsts]
      split
      · exact ih hvs
      · refine List.pairwise_cons.mpr ⟨fun w hw => ?_, ih hvs⟩
        have hw' := hvs w (firsts_subset _ _ hw)
        have hdiffers := isIn_of_mem_firsts hw
        rw [isIn_append, Bool.or_eq_false_iff, isIn_singleton] at hdiffers
        refine ⟨Bool.eq_false_iff.mpr fun hsame => ?_, hdiffers.2⟩
        exact Bool.eq_false_iff.mp hdiffers.2 (hv.same_symm hw' hsame)

theorem firsts_of_unequal {earlier items : List Json} (h : Unequal items)
    (hnew : ∀ item ∈ items, item.isIn earlier = false) : firsts earlier items = items := by
  induction items generalizing earlier with
  | nil => rfl
  | cons v vs ih =>
      obtain ⟨hhead, htail⟩ := List.pairwise_cons.mp h
      obtain ⟨hv, hvs⟩ := List.forall_mem_cons.mp hnew
      rw [firsts, if_neg (Bool.eq_false_iff.mp hv), ih htail]
      intro w hw
      rw [isIn_append, hvs w hw, isIn_singleton, (hhead w hw).2, Bool.or_false]

/-- Comparing with the values kept so far comes to comparing with all that stand before. -/
theorem distinct_eq_firsts {items : List Json} (h : ∀ item ∈ items, item.WellFormed) :
    distinct items = firsts [] items := by
  suffices hfold : ∀ kept earlier : List Json,
      (∀ v : Json, v.WellFormed → v.isIn kept = v.isIn earlier) →
        items.foldl (fun kept v => if v.isIn kept then kept else kept ++ [v]) kept =
          kept ++ firsts earlier items from hfold [] [] fun _ _ => rfl
  induction items with
  | nil => simp [firsts]
  | cons v vs ih =>
      obtain ⟨hv, hvs⟩ := List.forall_mem_cons.mp h
      intro kept earlier hkept
      rw [List.foldl_cons, firsts, ← hkept v hv]
      split
      · next hold =>
        refine ih hvs kept _ fun w hw => ?_
        rw [isIn_append, isIn_singleton, ← hkept w hw]
        cases hsame : w.same v with
        | false => rw [Bool.or_false]
        | true =>
            -- An equal of a value that is there already is there itself.
            obtain ⟨k, hk, hvk⟩ := isIn_iff.mp hold
            rw [Bool.or_true, isIn_iff]
            exact ⟨k, hk, hw.same_trans hsame hvk⟩
      · rw [ih hvs (kept ++ [v]) (earlier ++ [v]) fun w hw => ?_]
        · rw [List.append_assoc, List.singleton_append]
        · rw [isIn_append, isIn_append, hkept w hw]

/-- A value that stands among others is kept, or equals one that is. -/
theorem isIn_distinct {v : Json} {items : List Json} (hv : v.same v = true) (h : v ∈ items) :
    v.isIn (distinct items) = true := by
  induction items using List.reverseRecOn with
  | nil => cases h
  | append_singleton items w ih =>
      have hgrown : distinct (items ++ [w]) =
          if w.isIn (distinct items) then distinct items
          else distinct items ++ [w] := by
        rw [distinct, List.foldl_append, List.foldl_cons, List.foldl_nil, ← distinct]
      rw [hgrown]
      rcases List.mem_append.mp h with hmem | hlast
      · split
        · exact ih hmem
        · rw [isIn_append, ih hmem, Bool.true_or]
      · obtain rfl := List.mem_singleton.mp hlast
        split
        · next hkept => exact hkept
        · rw [isIn_append, isIn_singleton, hv, Bool.or_true]

/-- A further copy of a value is not kept. -/
theorem distinct_copy {v : Json} {earlier : List Json} (hv : v.same v = true) (h : v ∈ earlier)
    (later : List Json) :
    distinct (earlier ++ later) = distinct (earlier ++ v :: later) := by
  rw [distinct, distinct, List.foldl_append, List.foldl_append, List.foldl_cons,
    ← distinct, if_pos (isIn_distinct hv h)]

end Json

end OrderDesk
