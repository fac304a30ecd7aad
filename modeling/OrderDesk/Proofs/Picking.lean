import Mathlib.Data.List.Induction
import Mathlib.Tactic.Common
import OrderDesk.Proofs.Covering
import OrderDesk.Proofs.Records

/-! # Picked entries

A record may be reduced to the entries under some names. What is picked from the JSON form of an
order binds to the order with only the fields that were picked, and defaults for the others. The
fields that the paths of a request keep are those at the top of them.
-/

namespace OrderDesk

/-! ### Picking entries -/

namespace Fields

variable {α : Type}

/-- Copies the entry under a name, if there is one. -/
def pick (fs kept : Fields α) (name : String) : Fields α :=
  match get? fs name with
  | some value => set kept name value
  | none => kept

/-- Entries picked from a record: some of its own, no two under one name, and all that are wanted
if the record has them. -/
structure Picks (fs : Fields α) (wanted : String → Prop) (picked : Fields α) : Prop where
  nodup : (names picked).Nodup
  subset : picked ⊆ fs
  mem_names : ∀ name, name ∈ names picked ↔ wanted name ∧ name ∈ names fs

namespace Picks

variable {fs picked : Fields α} {wanted : String → Prop}

theorem nil (fs : Fields α) : Picks fs (fun _ => False) [] :=
  ⟨List.nodup_nil, List.nil_subset _, fun name => by simp [names]⟩

theorem congr {other : String → Prop} (h : Picks fs wanted picked)
    (hiff : ∀ name ∈ names fs, wanted name ↔ other name) : Picks fs other picked := by
  refine ⟨h.nodup, h.subset, fun name => ?_⟩
  rw [h.mem_names]
  exact and_congr_left (hiff name)

theorem pick (h : Picks fs wanted picked) (name : String) :
    Picks fs (fun other => wanted other ∨ other = name) (fs.pick picked name) := by
  unfold Fields.pick
  split
  · next value hvalue =>
    have hmem : (name, value) ∈ fs := mem_of_get? hvalue
    have hname : name ∈ names fs := List.mem_map.mpr ⟨_, hmem, rfl⟩
    refine ⟨nodup_names_set h.nodup name value, ?_, fun other => ?_⟩
    · exact List.Subset.trans (set_subset ..) (List.cons_subset.mpr ⟨hmem, h.subset⟩)
    · rw [mem_names_set, h.mem_names, or_and_right]
      exact or_congr_right (iff_self_and.mpr fun heq => heq ▸ hname)
  · next hnone =>
    have hname : name ∉ names fs := get?_eq_none.mp hnone
    refine ⟨h.nodup, h.subset, fun other => ?_⟩
    rw [h.mem_names, or_and_right]
    exact (or_iff_left fun ⟨heq, hmem⟩ => hname (heq ▸ hmem)).symm

/-- Picking names one after the other picks all of them. -/
theorem foldl (h : Picks fs wanted picked) (more : List String) :
    Picks fs (fun name => wanted name ∨ name ∈ more) (more.foldl fs.pick picked) := by
  induction more generalizing wanted picked with
  | nil => exact h.congr fun name _ => by simp
  | cons next more ih =>
      rw [List.foldl_cons]
      exact (ih (h.pick next)).congr fun name _ => by rw [List.mem_cons, or_assoc]

theorem without (h : Picks fs wanted picked) (name : String) :
    Picks (fs.without name) wanted (picked.without name) := by
  refine ⟨h.nodup.sublist (List.filter_sublist.map _), List.filter_subset _ h.subset, ?_⟩
  intro other
  rw [mem_names_without, mem_names_without, h.mem_names, and_assoc]

/-- Entries may be converted as long as they keep their names. -/
theorem map {β : Type} {f : String × α → String × β} (h : Picks fs wanted picked)
    (hf : ∀ entry, (f entry).1 = entry.1) : Picks (fs.map f) wanted (picked.map f) := by
  have hnames : ∀ entries : Fields α, names (entries.map f) = names entries := by
    intro entries
    rw [names, names, List.map_map]
    exact List.map_congr_left fun entry _ => hf entry
  refine ⟨?_, List.map_subset _ h.subset, ?_⟩
  · rw [hnames]
    exact h.nodup
  · intro name
    rw [hnames, hnames, h.mem_names]

/-- A new first entry of a record may be picked last. -/
theorem concat {name : String} (h : Picks fs wanted picked) (hnew : name ∉ names fs) (value : α)
    (P : Prop) [Decidable P] :
    Picks ((name, value) :: fs) (fun other => if other = name then P else wanted other)
      (picked ++ if P then [(name, value)] else []) := by
  have hunpicked : name ∉ names picked := fun hmem => hnew ((h.mem_names name).mp hmem).2
  have hrest : picked ⊆ (name, value) :: fs := List.Subset.trans h.subset (List.subset_cons_self ..)
  by_cases hP : P
  · rw [if_pos hP, ← set_of_not_mem value hunpicked]
    refine ⟨nodup_names_set h.nodup name value, ?_, fun other => ?_⟩
    · exact List.Subset.trans (set_subset ..) (List.cons_subset.mpr ⟨List.mem_cons_self, hrest⟩)
    · rw [mem_names_set, h.mem_names]
      by_cases hother : other = name
      · simp [hother, hP, names]
      · simp [hother, names]
  · rw [if_neg hP, List.append_nil]
    refine ⟨h.nodup, hrest, fun other => ?_⟩
    rw [h.mem_names]
    by_cases hother : other = name
    · simp [hother, hP, hnew]
    · simp [hother, names]

end Picks

end Fields

/-! ### Parts of an order -/

namespace Order

/-- An order with the fields under some names, named as in the JSON form, and with defaults for the
others. -/
def only (names : List String) (o : Order) : Order where
  id := if "id" ∈ names then o.id else ""
  userId := if "userId" ∈ names then o.userId else ""
  status := if "status" ∈ names then o.status else ""
  city := if "city" ∈ names then o.city else ""
  addressDetail := if "addressDetail" ∈ names then o.addressDetail else ""
  lineItems := if "lineItems" ∈ names then o.lineItems else []
  total := if "total" ∈ names then o.total else .zero
  createdAt := if "createdAt" ∈ names then o.createdAt else none
  updatedAt := if "updatedAt" ∈ names then o.updatedAt else none

/-- What the paths of a request keep of an order: the fields at the top of them, and all of it if
there are none. -/
def keep (fields : List String) (o : Order) : Order :=
  if fields.isEmpty then o else o.only (fields.map FieldPath.top)

/-- What the paths of a request keep of an order in a backend. The store keeps the identity only
where that is named itself. -/
def keepIn : Backend → List String → Order → Order
  | .index, fields, o => o.keep fields
  | .store, fields, o =>
    { o.keep fields with id := if fields.isEmpty ∨ "id" ∈ fields then o.id else "" }

theorem only_append (names : List String) (name : String) (o : Order) :
    o.only (names ++ [name]) = o.withField (o.only names) name := by
  unfold withField
  split_ifs with hid huser hstatus hcity haddress hitems htotal hcreated hupdated
  all_goals simp_all [only, eq_comm]

/-- Fields that are written one after the other are the only ones. -/
theorem foldl_withField (names : List String) (o : Order) :
    names.foldl o.withField {} = o.only names := by
  induction names using List.reverseRecOn with
  | nil => rfl
  | append_singleton names name ih => rw [List.foldl_append, ih, only_append]; rfl

theorem keep_of_ne_nil {fields : List String} (h : fields ≠ []) (o : Order) :
    o.keep fields = o.only (fields.map FieldPath.top) :=
  if_neg (by simpa using h)

/-- What a backend keeps is what the paths keep, unless the store is asked for paths below the
identity but not for the identity. -/
theorem keepIn_eq_keep {backend : Backend} {fields : List String}
    (h : backend = .store → ∀ field ∈ fields, FieldPath.isBelow field "id" = true → "id" ∈ fields) :
    keepIn backend fields = keep fields := by
  funext o
  cases backend with
  | index => rfl
  | store =>
      by_cases hne : fields = []
      · rw [hne]
        rfl
      · have hid : "id" ∈ fields.map FieldPath.top ↔ "id" ∈ fields := by
          constructor
          · intro hmem
            obtain ⟨field, hfield, htop⟩ := List.mem_map.mp hmem
            rcases (FieldPath.top_eq_iff (by decide)).mp htop with rfl | hbelow
            · exact hfield
            · exact h rfl field hfield hbelow
          · exact fun hfield => List.mem_map.mpr ⟨"id", hfield, by decide⟩
        simp [keepIn, keep_of_ne_nil hne, only, hid, hne, -List.mem_map]

theorem names_members (o : Order) :
    Fields.names (("id", Json.string o.id) :: o.otherMembers) = Order.parts.map (·.name) := rfl

/-- Members that are picked from the JSON form read back as the only fields. -/
theorem bind_picked {o : Order} (h : o.IsReadable) {wanted : String → Prop} {names : List String}
    {members : List (String × Json)}
    (hpicked : Fields.Picks (("id", Json.string o.id) :: o.otherMembers) wanted members)
    (hnames : ∀ part ∈ Order.parts, wanted part.name ↔ part.name ∈ names) :
    Binding.ofValue Order.bind (.object members) = .ok (o.told.only names) := by
  have hparts : ∀ part ∈ Order.parts, part.name ∈ Fields.names members ↔ part.name ∈ names := by
    intro part hpart
    rw [hpicked.mem_names, names_members, hnames part hpart, and_iff_left]
    exact List.mem_map_of_mem hpart
  have hsame : o.told.only (Fields.names members) = o.told.only names := by
    simp only [Order.parts, List.forall_mem_cons, Binding.Part.of] at hparts
    simp only [only, hparts]
  rw [bind_members_of_subset h hpicked.nodup hpicked.subset, foldl_withField, ← hsame]
  rfl

end Order

end OrderDesk
