import Mathlib.Tactic.Common
import OrderDesk.Proofs.Encodings

/-! # Paths that are kept, and their flags

The store refuses a projection in which one path leads below another. The paths that a plan keeps
cover all paths of its request and none of them leads below another, and the same holds of the names
under which the store flags them, the one of the identity among them.
-/

namespace OrderDesk

open OrderDesk.Filter (Request covering isReserved)

namespace FieldPath

/-- A path continues another one: that one, a point, and whatever follows, if only nothing. -/
def Continues (path parent : String) : Prop := ∃ rest, path = parent ++ "." ++ rest

theorem isBelow_iff_continues {path parent : String} :
    isBelow path parent = true ↔ Continues path parent := by
  rw [isBelow_iff]
  constructor
  · rintro ⟨rest, h⟩
    exact ⟨String.ofList rest, String.toList_inj.mp (by simp [h])⟩
  · rintro ⟨rest, rfl⟩
    exact ⟨rest.toList, by simp⟩

theorem isBelow_eq_false_iff {path parent : String} :
    isBelow path parent = false ↔ ¬Continues path parent := by
  rw [← isBelow_iff_continues, Bool.not_eq_true]

end FieldPath

open FieldPath (Continues)

/-! ### Paths -/

/-- Some paths of a list stand for all of them: each once, in the order in which they first occur,
with none that continues another one, but with one that every path continues or is. -/
structure Filter.Covers (fields kept : List String) : Prop where
  nodup : kept.Nodup
  ordered : kept.Sublist fields.eraseDups
  apart : ∀ path ∈ kept, ∀ other ∈ kept, ¬Continues path other
  complete : ∀ field ∈ fields, field ∈ kept ∨ ∃ path ∈ kept, Continues field path

theorem Filter.covers_covering (fields : List String) : Covers fields (covering fields) where
  nodup := nodup_covering fields
  ordered := covering_sublist fields
  apart path hpath other hother := by
    rw [← FieldPath.isBelow_eq_false_iff]
    exact (mem_covering_iff.mp hpath).2 other (mem_covering_iff.mp hother).1
  complete field hfield := by
    obtain ⟨path, hpath, rfl | hbelow⟩ := exists_mem_covering hfield
    · exact .inl hpath
    · exact .inr ⟨path, hpath, FieldPath.isBelow_iff_continues.mp hbelow⟩

/-! ### Flags -/

namespace Documents

/-- Flags under distinct names, of which none continues another one. -/
structure Apart (flags : Document) : Prop where
  nodup : (Fields.names flags).Nodup
  apart : ∀ name ∈ Fields.names flags, ∀ other ∈ Fields.names flags, ¬Continues name other

theorem names_flags (fields : List String) :
    Fields.names (flags fields) =
      fields.map storedName ++ if callerId ∈ fields then [] else [storedId] := by
  rw [Fields.names, flags, List.map_append, List.map_map]
  split <;> rfl

/-- A stored name is the one of the identity, or the path itself. -/
theorem storedName_cases (field : String) :
    storedName field = storedId ∨ storedName field = field := by
  unfold storedName
  split
  · exact .inl rfl
  · exact .inr rfl

theorem mem_names_flags {fields : List String} {name : String}
    (h : name ∈ Fields.names (flags fields)) : name = storedId ∨ name ∈ fields := by
  rw [names_flags, List.mem_append] at h
  rcases h with hpath | hid
  · obtain ⟨field, hfield, rfl⟩ := List.mem_map.mp hpath
    rcases storedName_cases field with hname | hname
    · exact .inl hname
    · exact .inr (hname.symm ▸ hfield)
  · split at hid
    · cases hid
    · exact .inl (List.mem_singleton.mp hid)

/-- The names of the flags are distinct, and none continues another one, if the paths are so and
none of them is reserved. -/
theorem apart_flags {fields : List String} (hnodup : fields.Nodup)
    (hapart : ∀ path ∈ fields, ∀ other ∈ fields, ¬Continues path other)
    (hreserved : ∀ field ∈ fields, isReserved field = false) :
    Apart ((flags fields).map fun flag => (flag.1, .int32 flag.2)) := by
  have hnames : Fields.names ((flags fields).map fun flag => (flag.1, Bson.int32 flag.2)) =
      Fields.names (flags fields) := by
    rw [Fields.names, List.map_map]
    rfl
  refine ⟨?_, ?_⟩
  · rw [hnames, names_flags, List.nodup_append]
    refine ⟨hnodup.map_on fun field hfield other hother =>
      storedName_inj (hreserved field hfield) (hreserved other hother), ?_, ?_⟩
    · split <;> simp
    · intro name hname other hother heq
      obtain ⟨field, hfield, rfl⟩ := List.mem_map.mp hname
      split at hother
      · cases hother
      · next hid =>
        rw [List.mem_singleton.mp hother, storedName_eq_storedId (hreserved field hfield)] at heq
        exact hid (heq ▸ hfield)
  · rw [hnames]
    intro name hname other hother hcontinues
    -- The stored identity has no point, and what continues it is reserved.
    rcases mem_names_flags hname with rfl | hpath
    · rw [← FieldPath.isBelow_iff_continues,
        FieldPath.isBelow_of_not_mem (by decide) other] at hcontinues
      cases hcontinues
    · rcases mem_names_flags hother with rfl | hother
      · have hbelow : FieldPath.isBelow name "_id" = true :=
          FieldPath.isBelow_iff_continues.mpr hcontinues
        have hfree := hreserved name hpath
        rw [isReserved, hbelow, Bool.or_true] at hfree
        cases hfree
      · exact hapart name hpath other hother hcontinues

end Documents

open Documents (Query Apart flags)

/-- The paths that the plan of a request keeps cover all paths that the request names, and of the
kept ones a plan keeps them all. If the request is valid and names any, its query flags each kept
path with one, under its stored name, and then the identity with zero unless it is kept, and no name
of a flag continues another one. -/
theorem projection_covers_paths (r : Request) :
    Filter.Covers r.fields r.plan.projection ∧
      ({ r with fields := r.plan.projection } : Request).plan.projection = r.plan.projection ∧
      (r.check = .ok () → r.fields ≠ [] → ∃ d, (Query.ofRequest r).projection = some d ∧
        d = (r.plan.projection.map fun path => (Documents.storedName path, .int32 1)) ++
          (if "id" ∈ r.plan.projection then [] else [("_id", .int32 0)]) ∧
        Apart d) := by
  have hcovers := Filter.covers_covering r.fields
  refine ⟨hcovers, Filter.covering_covering r.fields, fun hvalid hnamed => ?_⟩
  have hreserved := Documents.isReserved_covering hvalid
  have hempty : (covering r.fields).isEmpty = false := by
    rw [List.isEmpty_eq_false_iff, ne_eq, Filter.covering_eq_nil]
    exact hnamed
  refine ⟨_, ?_, ?_, Documents.apart_flags hcovers.nodup hcovers.apart hreserved⟩
  · have hprojection := Documents.projection?_eq hcovers.nodup hreserved
    rwa [hempty, if_neg Bool.false_ne_true] at hprojection
  · rw [flags, List.map_append, List.map_map]
    congr 1
    change _ = if Documents.callerId ∈ covering r.fields then [] else _
    split <;> rfl

/-- A path that is named twice, one below another, one that only begins like another, and one below
the identity without the identity itself. -/
theorem projection_covers_paths_items :
    let r : Request :=
      { fields := ["lineItems.name", "status", "lineItems", "lineItemsCount", "status", "id.x"] }
    r.check = .ok () ∧ r.fields ≠ [] ∧
      r.plan.projection = ["status", "lineItems", "lineItemsCount", "id.x"] ∧
      ∃ d, (Query.ofRequest r).projection = some d ∧
        d = [("status", .int32 1), ("lineItems", .int32 1), ("lineItemsCount", .int32 1),
          ("id.x", .int32 1), ("_id", .int32 0)] ∧
        Apart d := by
  intro r
  have hvalid : r.check = .ok () := rfl
  have hnamed : r.fields ≠ [] := List.cons_ne_nil _ _
  have hkept : r.plan.projection = ["status", "lineItems", "lineItemsCount", "id.x"] := by
    decide +kernel
  obtain ⟨-, -, hflags⟩ := projection_covers_paths r
  obtain ⟨d, hd, heq, hapart⟩ := hflags hvalid hnamed
  refine ⟨hvalid, hnamed, hkept, d, hd, ?_, hapart⟩
  rw [heq, hkept]
  rfl

end OrderDesk
