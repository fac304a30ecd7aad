import Mathlib.Tactic.Common
import OrderDesk.Filter.Plan
import OrderDesk.Proofs.Paths
import OrderDesk.Proofs.Repetitions

/-! # Paths that cover others

A path that goes on behind another one with a point lies below it, under the same first segment. A
plan keeps the paths that lie below no other, so that each path of a request is kept or lies below
one that is.
-/

namespace OrderDesk

namespace FieldPath

variable {path parent : String}

theorem isBelow_iff :
    isBelow path parent = true ↔ ∃ rest, path.toList = parent.toList ++ '.' :: rest := by
  rw [isBelow, List.isPrefixOf_iff_prefix]
  constructor
  · rintro ⟨rest, h⟩
    exact ⟨rest, by simp [← h]⟩
  · rintro ⟨rest, h⟩
    exact ⟨rest, by simp [h]⟩

/-- A path without points lies below no other one. -/
theorem isBelow_of_not_mem (h : '.' ∉ path.toList) (parent : String) :
    isBelow path parent = false := by
  rw [Bool.eq_false_iff, ne_eq, isBelow_iff]
  rintro ⟨rest, hpath⟩
  apply h
  simp [hpath]

theorem length_lt_of_isBelow (h : isBelow path parent = true) :
    parent.toList.length < path.toList.length := by
  obtain ⟨rest, hpath⟩ := isBelow_iff.mp h
  rw [hpath, List.length_append, List.length_cons]
  omega

theorem head?_split (separator : Char) (cs : List Char) :
    (split separator cs).head? = some (cs.takeWhile (· ≠ separator)) := by
  induction cs with
  | nil => rfl
  | cons c cs ih =>
      unfold split
      split
      · next hsep => simp [hsep]
      · next hsep =>
        split
        · next hnil => exact absurd hnil (split_ne_nil separator cs)
        · next part parts hsplit =>
          rw [hsplit] at ih
          obtain rfl := Option.some.inj ih
          simp [hsep]

/-- The first segment reaches up to the first point. -/
theorem top_eq (path : String) :
    top path = String.ofList (path.toList.takeWhile (· ≠ '.')) := by
  have hhead := head?_split '.' path.toList
  rw [top, segments]
  cases hsplit : split '.' path.toList with
  | nil => exact absurd hsplit (split_ne_nil '.' path.toList)
  | cons part parts =>
      rw [hsplit] at hhead
      obtain rfl := Option.some.inj hhead
      rfl

/-- Below a path the first segment stays the same. -/
theorem top_of_isBelow (h : isBelow path parent = true) : top path = top parent := by
  obtain ⟨rest, hpath⟩ := isBelow_iff.mp h
  rw [top_eq, top_eq, hpath]
  congr 1
  rw [List.takeWhile_append]
  split
  · next hall =>
    have hparent : parent.toList.takeWhile (· ≠ '.') = parent.toList :=
      (List.takeWhile_prefix _).eq_of_length hall
    rw [List.takeWhile_cons_of_neg (by simp), List.append_nil, hparent]
  · rfl

/-- A single segment is the first one of itself and of the paths below it. -/
theorem top_eq_iff (hparent : top parent = parent) :
    top path = parent ↔ path = parent ∨ isBelow path parent = true := by
  constructor
  · intro h
    cases hsegments : segments path with
    | nil =>
        rw [top, hsegments] at h
        exact .inl h
    | cons segment rest =>
        rw [top, hsegments] at h
        obtain rfl : segment = parent := h
        rcases toList_of_segments hsegments with ⟨-, hpath⟩ | ⟨-, hbelow⟩
        · exact .inl hpath
        · exact .inr hbelow
  · rintro (rfl | hbelow)
    · exact hparent
    · rw [top_of_isBelow hbelow, hparent]

end FieldPath

namespace Filter

open FieldPath (isBelow)

theorem mem_covering_iff {fields : List String} {field : String} :
    field ∈ covering fields ↔
      field ∈ fields ∧ ∀ other ∈ fields, isBelow field other = false := by
  simp [covering, List.mem_eraseDups]

/-- No path is kept twice. -/
theorem nodup_covering (fields : List String) : (covering fields).Nodup := nodup_eraseDups _

/-- The paths that are kept stand in the order in which they first occur. -/
theorem covering_sublist (fields : List String) : (covering fields).Sublist fields.eraseDups := by
  rw [covering, eraseDups_filter]
  exact List.filter_sublist

/-- Every path is covered: it is kept itself, or lies below one that is. -/
theorem exists_mem_covering {fields : List String} {field : String} (h : field ∈ fields) :
    ∃ kept ∈ covering fields, kept = field ∨ isBelow field kept = true := by
  -- What a path lies below is shorter, so going up from a path ends at one that is kept.
  induction hlength : field.toList.length using Nat.strongRecOn generalizing field with
  | ind length ih =>
      by_cases htop : ∀ other ∈ fields, isBelow field other = false
      · exact ⟨field, mem_covering_iff.mpr ⟨h, htop⟩, .inl rfl⟩
      · simp only [not_forall, Bool.not_eq_false] at htop
        obtain ⟨parent, hparent, hbelow⟩ := htop
        have hshorter := FieldPath.length_lt_of_isBelow hbelow
        rw [hlength] at hshorter
        obtain ⟨kept, hkept, hcases⟩ := ih _ hshorter hparent rfl
        refine ⟨kept, hkept, .inr ?_⟩
        rcases hcases with rfl | habove
        · exact hbelow
        · obtain ⟨rest, hrest⟩ := FieldPath.isBelow_iff.mp hbelow
          obtain ⟨between, hbetween⟩ := FieldPath.isBelow_iff.mp habove
          rw [FieldPath.isBelow_iff, hrest, hbetween]
          exact ⟨between ++ '.' :: rest, by simp⟩

/-- Of the paths that are kept, all are kept again. -/
theorem covering_covering (fields : List String) :
    covering (covering fields) = covering fields := by
  have hapart : (covering fields).filter
      (fun field => !(covering fields).any (isBelow field)) = covering fields := by
    rw [List.filter_eq_self]
    intro field hfield
    rw [Bool.not_eq_true', List.any_eq_false]
    intro other hother
    rw [(mem_covering_iff.mp hfield).2 other (mem_covering_iff.mp hother).1]
    exact Bool.false_ne_true
  rw [covering, hapart, eraseDups_of_nodup (nodup_covering fields)]

theorem covering_eq_nil {fields : List String} : covering fields = [] ↔ fields = [] := by
  constructor
  · intro h
    apply List.eq_nil_iff_forall_not_mem.mpr
    intro field hfield
    obtain ⟨kept, hkept, -⟩ := exists_mem_covering hfield
    rw [h] at hkept
    cases hkept
  · rintro rfl
    rfl

/-- The paths that are kept have the first segments of all paths. -/
theorem mem_map_top_covering {fields : List String} {name : String} :
    name ∈ (covering fields).map FieldPath.top ↔ name ∈ fields.map FieldPath.top := by
  simp only [List.mem_map]
  constructor
  · rintro ⟨field, hfield, rfl⟩
    exact ⟨field, (mem_covering_iff.mp hfield).1, rfl⟩
  · rintro ⟨field, hfield, rfl⟩
    obtain ⟨kept, hkept, rfl | hbelow⟩ := exists_mem_covering hfield
    · exact ⟨kept, hkept, rfl⟩
    · exact ⟨kept, hkept, (FieldPath.top_of_isBelow hbelow).symm⟩

/-- A single segment is kept wherever it is asked for. -/
theorem mem_covering_iff_of_not_mem {fields : List String} {field : String}
    (hfield : '.' ∉ field.toList) : field ∈ covering fields ↔ field ∈ fields := by
  rw [mem_covering_iff]
  exact and_iff_left fun other _ => FieldPath.isBelow_of_not_mem hfield other

end Filter

end OrderDesk
