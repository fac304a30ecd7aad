import Mathlib.Tactic.Common
import OrderDesk.Proofs.Paths
import OrderDesk.Proofs.Requests
import OrderDesk.Proofs.Words

/-! # What a request says of a source

A path reaches values of a JSON value member by member, through every array on its way, and at its
end it reaches the items of an array in place of the array. A request fits a source if each of its
clauses is met by a value that the field of the clause reaches. Exact clauses ask for equality;
what the others ask for is up to the backend.
-/

namespace OrderDesk

open OrderDesk.Filter (Request)

namespace Json

/-- A value that a path, given by its segments, reaches in a source. -/
inductive Reaches : Json → List String → Json → Prop
  | value {v : Json} (h : v.asArray? = none) : Reaches v [] v
  | item {items : List Json} {v : Json} (h : v ∈ items) : Reaches (.array items) [] v
  | member {members : List (String × Json)} {segment : String} {path : List String} {w v : Json}
      (hmember : Fields.get? members segment = some w) (h : w.Reaches path v) :
      Reaches (.object members) (segment :: path) v
  | through {items : List Json} {segment : String} {path : List String} {w v : Json}
      (hitem : w ∈ items) (h : w.Reaches (segment :: path) v) :
      Reaches (.array items) (segment :: path) v

/-- Numbers are equal as floats, and any other value is equal to itself only. -/
inductive Equals : Json → Json → Prop
  | numbers {m n : Number} (h : m.toBinary64.eqv n.toBinary64 = true) :
      Equals (.number m) (.number n)
  | same {v : Json} (h : v.asBinary64? = none) : Equals v v

/-- A text resembles a text with which it shares a term, and a number or boolean whose own text is
a term of it. Nothing else resembles anything but its equals. -/
inductive Resembles : Json → Json → Prop
  | texts {s t : String} {term : List Char} (hs : Text.IsTerm s term) (ht : Text.IsTerm t term) :
      Resembles (.string s) (.string t)
  | spelt {s : String} {w : Json} (hw : w.asString? = none)
      (h : Text.IsTerm s (Text.lowercase w.write.toList)) : Resembles (.string s) w
  | equal {v w : Json} (hv : v.asString? = none) (h : v.Equals w) : Resembles v w

end Json

/-- Each clause is met by a value that its field reaches. -/
structure Filter.Request.Fits (Meets : Json → Json → Prop) (r : Request) (source : Json) :
    Prop where
  exact : ∀ clause ∈ r.exact, ∃ v, source.Reaches (FieldPath.segments clause.1) v ∧
    ∃ w ∈ clause.2, v.Equals w
  matching : ∀ clause ∈ r.matching, ∃ v, source.Reaches (FieldPath.segments clause.1) v ∧
    Meets v clause.2

namespace Search

/-! ### Paths -/

theorem reaches_of_mem_below {source w v : Json} {segment : String} {path : List String}
    (hw : w ∈ below segment source) (h : w.Reaches path v) :
    source.Reaches (segment :: path) v := by
  cases source with
  | null | boolean b | number n | string s => cases hw
  | object members => exact .member (Option.mem_toList.mp hw) h
  | array items =>
      rw [below, belowItems_eq, List.mem_flatMap] at hw
      obtain ⟨item, hitem, hw⟩ := hw
      exact .through hitem (reaches_of_mem_below hw h)

/-- A first segment leads to the values below a source. -/
theorem reaches_cons_iff {source v : Json} {segment : String} {path : List String} :
    source.Reaches (segment :: path) v ↔ ∃ w ∈ below segment source, w.Reaches path v := by
  constructor
  · intro h
    generalize hpath : segment :: path = full at h
    induction h with
    | value h => cases hpath
    | item h => cases hpath
    | member hmember h =>
        obtain ⟨rfl, rfl⟩ := List.cons.inj hpath
        exact ⟨_, by rw [below, hmember]; exact List.mem_singleton.mpr rfl, h⟩
    | @through items _ _ item v hitem _ ih =>
        obtain ⟨w, hw, hreaches⟩ := ih hpath
        refine ⟨w, ?_, hreaches⟩
        rw [below, belowItems_eq, List.mem_flatMap]
        exact ⟨item, hitem, hw⟩
  · rintro ⟨w, hw, hreaches⟩
    exact reaches_of_mem_below hw hreaches

theorem mem_unfolded_iff {source v : Json} : v ∈ unfolded source ↔ source.Reaches [] v := by
  constructor
  · intro h
    cases source with
    | array items => exact .item h
    | null | boolean b | number n | string s | object members =>
        rw [List.mem_singleton.mp h]
        exact .value rfl
  · intro h
    cases h with
    | item h => exact h
    | value h =>
        cases source with
        | array items => cases h
        | null | boolean b | number n | string s | object members =>
            exact List.mem_singleton.mpr rfl

theorem mem_led_iff {values : List Json} {path : List String} {v : Json} :
    v ∈ (led values path).flatMap unfolded ↔ ∃ w ∈ values, w.Reaches path v := by
  induction path generalizing values with
  | nil =>
      rw [led_nil, List.mem_flatMap]
      exact exists_congr fun w => and_congr_right fun _ => mem_unfolded_iff
  | cons segment path ih =>
      rw [led_cons, ih]
      simp only [reaches_cons_iff, List.mem_flatMap]
      constructor
      · rintro ⟨w, ⟨source, hsource, hw⟩, hreaches⟩
        exact ⟨source, hsource, w, hw, hreaches⟩
      · rintro ⟨source, hsource, w, hw, hreaches⟩
        exact ⟨w, ⟨source, hsource, hw⟩, hreaches⟩

theorem mem_reached_iff {source v : Json} {path : String} :
    v ∈ reached source path ↔ source.Reaches (FieldPath.segments path) v := by
  rw [reached_eq, mem_led_iff]
  simp

/-! ### Values -/

/-- Literals other than numbers have the content of no other value. -/
theorem same_iff {v w : Json} (hw : Filter.isLiteral w = true) (hnone : w.asBinary64? = none) :
    v.same w = true ↔ v = w := by
  cases w with
  | null | array items | object members => cases hw
  | number n => cases hnone
  | boolean b | string t => cases v <;> simp [Json.same]

theorem equal_iff {v w : Json} (hw : Filter.isLiteral w = true) :
    equal v w = true ↔ v.Equals w := by
  cases hnumber : w.asBinary64? with
  | none =>
      have hequal : equal v w = v.same w := by
        rw [equal, hnumber]
        cases v.asBinary64? <;> rfl
      rw [hequal, same_iff hw hnumber]
      constructor
      · rintro rfl
        exact .same hnumber
      · rintro (h | h)
        · cases hnumber
        · rfl
  | some y =>
      cases w with
      | null | boolean b | string s | array items | object members => cases hnumber
      | number n =>
          constructor
          · intro h
            cases v with
            | number m => exact .numbers h
            | null | boolean b | string s | array items | object members =>
                simp [equal, Json.asBinary64?, Json.same] at h
          · rintro (h | h)
            · exact h
            · cases h

theorem matchesLoosely_iff {v w : Json} (hw : Filter.isLiteral w = true) :
    matchesLoosely v w = true ↔ v.Resembles w := by
  cases v with
  | string s =>
      cases w with
      | null | array items | object members => cases hw
      | string t =>
          simp only [matchesLoosely, List.any_eq_true, decide_eq_true_eq, Text.mem_terms_iff]
          constructor
          · rintro ⟨term, ht, hs⟩
            exact .texts hs ht
          · intro h
            cases h with
            | texts hs ht => exact ⟨_, ht, hs⟩
            | spelt hw h => cases hw
            | equal hv h => cases hv
      | number n | boolean b =>
          simp only [matchesLoosely, decide_eq_true_eq, Text.mem_terms_iff]
          constructor
          · exact .spelt rfl
          · intro h
            cases h with
            | spelt hw h => exact h
            | equal hv h => cases hv
  | null | boolean b | number n | array items | object members =>
      rw [matchesLoosely, equal_iff hw]
      · constructor
        · exact .equal rfl
        · intro h
          cases h with
          | equal hv h => exact h
      all_goals simp

end Search

end OrderDesk
