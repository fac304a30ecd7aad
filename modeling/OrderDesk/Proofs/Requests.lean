import Mathlib.Tactic.Common
import OrderDesk.Filter.Binding
import OrderDesk.Filter.Plan
import OrderDesk.Filter.Validity
import OrderDesk.Proofs.Binding
import OrderDesk.Proofs.Fields

/-! # Well-formed and valid requests

No section of a request names a field twice. Reading a request refuses a second sort key on a
field, and the operations that build one replace it, so all requests are well-formed. A valid one
names no reserved field and lists literals only.
-/

namespace OrderDesk

namespace Fields

/-- Writing entries one after the other leaves no name twice. -/
theorem nodup_names_ofEntries {α : Type} (entries : List (String × α)) :
    (names (ofEntries entries)).Nodup := by
  suffices hfold : ∀ fs : Fields α, (names fs).Nodup →
      (names (entries.foldl (fun fs entry => set fs entry.1 entry.2) fs)).Nodup from
    hfold [] List.nodup_nil
  induction entries with
  | nil => exact fun fs hfs => hfs
  | cons entry entries ih => exact fun fs hfs => ih _ (nodup_names_set hfs entry.1 entry.2)

end Fields

namespace Filter

/-! ### Sections without repetition -/

/-- No section names a field twice, which holds of whatever is read or built. -/
structure Request.WellFormed (r : Request) : Prop where
  exact_nodup : (Fields.names r.exact).Nodup
  matching_nodup : (Fields.names r.matching).Nodup
  sort_nodup : (r.sort.map (·.field)).Nodup

theorem map_nodup {α : Type} {bind : Binding.Binder α} {room : Json.Room} {d : Json.Draft}
    {fs : Fields α} (h : Binding.map bind room d = .ok fs) : (Fields.names fs).Nodup := by
  cases d with
  | object members closed =>
      obtain ⟨inner, -, hbind⟩ := bind_eq_ok.mp h
      obtain ⟨entries, -, hclosing⟩ := bind_eq_ok.mp hbind
      obtain rfl := Binding.ok_of_closing hclosing
      exact Fields.nodup_names_ofEntries entries
  | null | boolean b | number n | string s | array items closed | unreadable | broken => cases h

/-- A section is read without repetition, and so is the empty one in its place. -/
theorem orDefault_nodup {α : Type} {bind : Binding.Binder (Fields α)} {room : Json.Room}
    {d : Json.Draft} {fs : Fields α}
    (hbind : ∀ room d fs, bind room d = .ok fs → (Fields.names fs).Nodup)
    (h : Binding.orDefault bind room d = .ok fs) : (Fields.names fs).Nodup := by
  cases d with
  | null =>
      obtain rfl := Except.ok.inj h
      exact List.nodup_nil
  | boolean b | number n | string s | array items closed | object members closed | unreadable
  | broken => exact hbind _ _ _ h

theorem exactFilters_nodup {room : Json.Room} {d : Json.Draft} {fs : Fields (List Json)}
    (h : exactFilters room d = .ok fs) : (Fields.names fs).Nodup := by
  refine orDefault_nodup (fun room d fs hfs => ?_) h
  cases hmap : Binding.map Binding.value room d with
  | error flaw => rw [hmap] at hfs; cases hfs
  | ok members =>
      rw [hmap] at hfs
      obtain rfl := Except.ok.inj hfs
      simpa [Fields.names, Function.comp_def] using map_nodup hmap

/-- Keys that are not refused name no field twice, nor one seen before. -/
theorem nodup_of_distinctKeys {seen : List String} {keys : List SortKey}
    (h : distinctKeys seen keys = .ok ()) :
    (keys.map (·.field)).Nodup ∧ ∀ key ∈ keys, key.field ∉ seen := by
  induction keys generalizing seen with
  | nil => simp
  | cons key keys ih =>
      rw [distinctKeys] at h
      split at h
      · cases h
      · next hnew =>
        obtain ⟨hnodup, hunseen⟩ := ih h
        simp only [List.mem_cons, not_or] at hunseen
        refine ⟨List.nodup_cons.mpr ⟨fun hmem => ?_, hnodup⟩, ?_⟩
        · obtain ⟨other, hother, heq⟩ := List.mem_map.mp hmem
          exact (hunseen other hother).1 heq
        · exact List.forall_mem_cons.mpr ⟨hnew, fun other hother => (hunseen other hother).2⟩

/-- Keys that are read are refused unless their fields are distinct. -/
theorem distinct_eq_ok {read : Binding.Bound (List SortKey)} {keys : List SortKey} :
    (read >>= fun keys => do distinctKeys [] keys; return keys) = .ok keys ↔
      read = .ok keys ∧ distinctKeys [] keys = .ok () := by
  rw [bind_eq_ok]
  constructor
  · rintro ⟨found, hread, hrest⟩
    obtain ⟨hdistinct, hfound⟩ := andThen_eq_ok.mp hrest
    obtain rfl := Except.ok.inj hfound
    exact ⟨hread, hdistinct⟩
  · rintro ⟨hread, hdistinct⟩
    exact ⟨keys, hread, andThen_eq_ok.mpr ⟨hdistinct, rfl⟩⟩

theorem sortKeys_nodup {room : Json.Room} {d : Json.Draft} {keys : List SortKey}
    (h : sortKeys room d = .ok keys) : (keys.map (·.field)).Nodup := by
  have hend : ∀ {read : Binding.Bound (List SortKey)},
      (read >>= fun keys => do distinctKeys [] keys; return keys) = .ok keys →
        (keys.map (·.field)).Nodup :=
    fun hread => (nodup_of_distinctKeys (distinct_eq_ok.mp hread).2).1
  unfold sortKeys at h
  split at h
  · obtain rfl := Except.ok.inj h
    exact List.nodup_nil
  · split at h
    · cases h
    · simp only at h
      split at h
      · exact hend h
      · split at h
        · exact hend h
        · exact hend h
      · exact hend h

theorem Request.WellFormed.empty : Request.empty.WellFormed :=
  ⟨List.nodup_nil, List.nodup_nil, List.nodup_nil⟩

/-- Whatever is read as a request is well-formed. -/
theorem Request.wellFormed_of_bind {room : Json.Room} {d : Json.Draft} {r : Request}
    (h : Request.bind room d = .ok r) : r.WellFormed := by
  refine Binding.record_keeps (P := Request.WellFormed) (fun part hpart => ?_) .empty h
  simp only [requestParts, List.mem_cons, List.not_mem_nil, or_false] at hpart
  rcases hpart with rfl | rfl | rfl | rfl
  · exact Binding.Part.keeps_of fun room d exact hexact r hr =>
      { hr with exact_nodup := exactFilters_nodup hexact }
  · exact Binding.Part.keeps_of fun room d matching hmatching r hr =>
      { hr with matching_nodup := orDefault_nodup (fun _ _ _ => map_nodup) hmatching }
  · exact Binding.Part.keeps_of fun room d fields _ r hr => { hr with }
  · exact Binding.Part.keeps_of fun room d sort hsort r hr =>
      { hr with sort_nodup := sortKeys_nodup hsort }

namespace Request.WellFormed

variable {r : Request}

theorem requireOneOf (hr : r.WellFormed) (field : String) (values : List Json) :
    (r.requireOneOf field values).WellFormed :=
  { hr with exact_nodup := Fields.nodup_names_set hr.exact_nodup field _ }

theorem requireMatch (hr : r.WellFormed) (field : String) (value : Json) :
    (r.requireMatch field value).WellFormed :=
  { hr with matching_nodup := Fields.nodup_names_set hr.matching_nodup field value }

theorem project (hr : r.WellFormed) (fields : List String) : (r.project fields).WellFormed :=
  { hr with }

/-- A sort key on a field that is sorted by already takes its place away. -/
theorem sortBy (hr : r.WellFormed) (key : SortKey) : (r.sortBy key).WellFormed where
  exact_nodup := hr.exact_nodup
  matching_nodup := hr.matching_nodup
  sort_nodup := by
    have hkept : ((r.sort.filter (·.field ≠ key.field)).map (·.field)).Nodup :=
      hr.sort_nodup.sublist (List.filter_sublist.map _)
    rw [Request.sortBy, List.map_append, List.nodup_append]
    refine ⟨hkept, by simp, ?_⟩
    intro field hfield other hother heq
    obtain ⟨kept, hmem, rfl⟩ := List.mem_map.mp hfield
    have hne := (List.mem_filter.mp hmem).2
    simp only [List.map_cons, List.map_nil, List.mem_singleton] at hother
    simp [heq.trans hother] at hne

end Request.WellFormed

/-! ### Agreement in a section -/

/-- Requests that agree in one section. -/
def Request.Agree (part : Section) (r s : Request) : Prop :=
  match part with
  | .exact => r.exact = s.exact
  | .matching => r.matching = s.matching
  | .fields => r.fields = s.fields
  | .sort => r.sort = s.sort

namespace Request

theorem Agree.symm {part : Section} {r s : Request} (h : Agree part r s) : Agree part s r := by
  cases part <;> exact Eq.symm h

theorem Agree.trans {part : Section} {r s t : Request} (h : Agree part r s)
    (h' : Agree part s t) : Agree part r t := by
  cases part <;> exact Eq.trans h h'

theorem eq_of_agree {r s : Request} (h : ∀ part, Agree part r s) : r = s := by
  obtain ⟨exact, matching, fields, sort⟩ := r
  obtain ⟨exact', matching', fields', sort'⟩ := s
  obtain rfl : exact = exact' := h .exact
  obtain rfl : matching = matching' := h .matching
  obtain rfl : fields = fields' := h .fields
  obtain rfl : sort = sort' := h .sort
  rfl

end Request

/-! ### Valid parts -/

theorem checkField_eq_ok {part : Section} {field : String} :
    checkField part field = .ok () ↔ isReserved field = false ∧ isFieldName field = true := by
  unfold checkField
  split
  · simp [*]
  · split <;> simp [*]

theorem checkExact_eq_ok {entry : String × List Json} :
    checkExact entry = .ok () ↔ checkField .exact entry.1 = .ok () ∧ entry.2 ≠ [] ∧
      ∀ v ∈ entry.2, isLiteral v = true := by
  rw [checkExact, andThen_eq_ok]
  refine and_congr_right fun _ => ?_
  cases hvalues : entry.2 with
  | nil => simp [throw, throwThe, MonadExceptOf.throw]
  | cons value values =>
      cases hfind : (value :: values).find? (!isLiteral ·) with
      | none =>
          rw [List.find?_eq_none] at hfind
          simpa [pure, Except.pure] using hfind
      | some v =>
          have hmem := List.mem_of_find?_eq_some hfind
          have hbad := List.find?_some hfind
          simp only [Bool.not_eq_true'] at hbad
          constructor
          · intro h
            cases h
          · rintro ⟨-, hall⟩
            rw [hall v hmem] at hbad
            cases hbad

theorem checkMatch_eq_ok {entry : String × Json} :
    checkMatch entry = .ok () ↔
      checkField .matching entry.1 = .ok () ∧ isLiteral entry.2 = true := by
  rw [checkMatch, andThen_eq_ok]
  refine and_congr_right fun _ => ?_
  cases hliteral : isLiteral entry.2 <;>
    simp [pure, Except.pure, throw, throwThe, MonadExceptOf.throw]

/-- A request is valid if each of its parts is. -/
theorem Request.check_eq_ok {r : Request} :
    r.check = .ok () ↔ (∀ entry ∈ r.exact, checkExact entry = .ok ()) ∧
      (∀ entry ∈ r.matching, checkMatch entry = .ok ()) ∧
      (∀ field ∈ r.fields, checkField .fields field = .ok ()) ∧
      ∀ key ∈ r.sort, checkField .sort key.field = .ok () := by
  simp only [Request.check, andThen_eq_ok, forM_eq_ok]

namespace Request

variable {r : Request}

theorem isReserved_exact (hvalid : r.check = .ok ()) :
    ∀ clause ∈ r.exact, isReserved clause.1 = false := by
  intro clause hclause
  have hexact := checkExact_eq_ok.mp ((check_eq_ok.mp hvalid).1 clause hclause)
  exact (checkField_eq_ok.mp hexact.1).1

theorem isReserved_matching (hvalid : r.check = .ok ()) :
    ∀ clause ∈ r.matching, isReserved clause.1 = false := by
  intro clause hclause
  have hmatch := checkMatch_eq_ok.mp ((check_eq_ok.mp hvalid).2.1 clause hclause)
  exact (checkField_eq_ok.mp hmatch.1).1

theorem isLiteral_exact (hvalid : r.check = .ok ()) :
    ∀ clause ∈ r.exact, ∀ v ∈ clause.2, isLiteral v = true :=
  fun clause hclause => (checkExact_eq_ok.mp ((check_eq_ok.mp hvalid).1 clause hclause)).2.2

theorem isLiteral_matching (hvalid : r.check = .ok ()) :
    ∀ clause ∈ r.matching, isLiteral clause.2 = true :=
  fun clause hclause => (checkMatch_eq_ok.mp ((check_eq_ok.mp hvalid).2.1 clause hclause)).2

theorem isReserved_fields (hvalid : r.check = .ok ()) :
    ∀ field ∈ r.fields, isReserved field = false :=
  fun field hfield => (checkField_eq_ok.mp ((check_eq_ok.mp hvalid).2.2.1 field hfield)).1

theorem isReserved_sort (hvalid : r.check = .ok ()) :
    ∀ key ∈ r.sort, isReserved key.field = false :=
  fun key hkey => (checkField_eq_ok.mp ((check_eq_ok.mp hvalid).2.2.2 key hkey)).1

end Request

/-! ### Plans -/

theorem Request.exactClauses_plan (r : Request) : r.plan.exactClauses = r.exact := by
  simp [Request.plan, Plan.exactClauses, List.filterMap_append, List.filterMap_map]

theorem Request.matchClauses_plan (r : Request) : r.plan.matchClauses = r.matching := by
  simp [Request.plan, Plan.matchClauses, List.filterMap_append, List.filterMap_map]

end Filter

end OrderDesk
