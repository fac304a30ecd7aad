import Mathlib.Tactic.Common
import OrderDesk.Fields

/-! # Laws of named entries

What writing and removing entries does to a list of them, beyond the values that are found: a new
name is appended, a value that is already there is no change, and entries whose names are distinct
are their own record.
-/

namespace OrderDesk.Fields

variable {α β : Type}

theorem get?_eq_none {fs : Fields α} {name : String} : get? fs name = none ↔ name ∉ names fs := by
  induction fs with
  | nil => simp [names]
  | cons entry fs ih =>
      rw [get?_cons]
      by_cases h : entry.1 = name
      · simp [names, h]
      · simp only [if_neg h, ih, names, List.map_cons, List.mem_cons, not_or]
        exact ⟨fun hrest => ⟨Ne.symm h, hrest⟩, fun hboth => hboth.2⟩

theorem mem_of_get? {fs : Fields α} {name : String} {value : α} (h : get? fs name = some value) :
    (name, value) ∈ fs := by
  induction fs with
  | nil => cases h
  | cons entry fs ih =>
      rw [get?_cons] at h
      split at h
      · next hkey =>
        obtain rfl := Option.some.inj h
        exact hkey ▸ List.mem_cons_self
      · exact List.mem_cons_of_mem _ (ih h)

/-- Where names are distinct, every entry is found. -/
theorem get?_of_mem {fs : Fields α} {name : String} {value : α} (hnames : (names fs).Nodup)
    (h : (name, value) ∈ fs) : get? fs name = some value := by
  induction fs with
  | nil => cases h
  | cons entry fs ih =>
      obtain ⟨hnew, hnames⟩ := List.nodup_cons.mp hnames
      rw [get?_cons]
      rcases List.mem_cons.mp h with rfl | hmem
      · rw [if_pos rfl]
      · rw [if_neg, ih hnames hmem]
        exact fun heq => hnew (List.mem_map.mpr ⟨(name, value), hmem, heq.symm⟩)

theorem has_eq {fs : Fields α} {name : String} : has fs name = true ↔ name ∈ names fs := by
  simp [has, names]

/-- A new name goes to the end. -/
theorem set_of_not_mem {fs : Fields α} {name : String} (value : α) (h : name ∉ names fs) :
    set fs name value = fs ++ [(name, value)] := by
  induction fs with
  | nil => rfl
  | cons entry fs ih =>
      simp only [names, List.map_cons, List.mem_cons, not_or] at h
      rw [set, if_neg (Ne.symm h.1), ih h.2, List.cons_append]

/-- Writing what is there changes nothing. -/
theorem set_of_get? {fs : Fields α} {name : String} {value : α} (h : get? fs name = some value) :
    set fs name value = fs := by
  induction fs with
  | nil => cases h
  | cons entry fs ih =>
      rw [get?_cons] at h
      rw [set]
      split at h
      · next hkey =>
        obtain ⟨key, old⟩ := entry
        cases h
        rw [if_pos hkey]
        simp only at hkey
        rw [hkey]
      · next hkey => rw [if_neg hkey, ih h]

theorem mem_names_set {fs : Fields α} {name other : String} {value : α} :
    other ∈ names (set fs name value) ↔ other ∈ names fs ∨ other = name := by
  rw [names_set]
  split
  · next hold => exact (or_iff_left_of_imp fun heq => heq ▸ hold).symm
  · simp

/-- Writing adds no entry but the one that is written. -/
theorem set_subset (fs : Fields α) (name : String) (value : α) :
    set fs name value ⊆ (name, value) :: fs := by
  induction fs with
  | nil => exact List.Subset.refl _
  | cons entry fs ih =>
      intro other hother
      rw [set] at hother
      split at hother
      · exact List.cons_subset_cons _ (List.subset_cons_self ..) hother
      · rcases List.mem_cons.mp hother with rfl | hrest
        · exact List.mem_cons_of_mem _ List.mem_cons_self
        · exact List.cons_subset_cons _ (List.subset_cons_self ..) (ih hrest)

theorem get?_append {fs gs : Fields α} {name : String} :
    get? (fs ++ gs) name = (get? fs name).or (get? gs name) := by
  induction fs with
  | nil => rfl
  | cons entry fs ih =>
      rw [List.cons_append, get?_cons, get?_cons, ih]
      split <;> rfl

@[simp] theorem get?_without_self (fs : Fields α) (name : String) :
    get? (without fs name) name = none := by
  rw [get?_eq_none]
  simp [names, without]

theorem get?_without_of_ne {fs : Fields α} {name other : String} (h : other ≠ name) :
    get? (without fs name) other = get? fs other := by
  induction fs with
  | nil => rfl
  | cons entry fs ih =>
      rw [get?_cons]
      by_cases hkey : entry.1 = name
      · have hne : ¬entry.1 = other := fun heq => h (heq ▸ hkey)
        have hskip : without (entry :: fs) name = without fs name := by simp [without, hkey]
        rw [hskip, ih, if_neg hne]
      · have hkeep : without (entry :: fs) name = entry :: without fs name := by
          simp [without, hkey]
        rw [hkeep, get?_cons, ih]

theorem mem_names_without {fs : Fields α} {name other : String} :
    other ∈ names (without fs name) ↔ other ∈ names fs ∧ other ≠ name := by
  simp [names, without, and_comm]

theorem without_of_not_mem {fs : Fields α} {name : String} (h : name ∉ names fs) :
    without fs name = fs := by
  refine List.filter_eq_self.mpr fun entry hentry => ?_
  simp only [ne_eq, decide_not, Bool.not_eq_true', decide_eq_false_iff_not]
  exact fun heq => h (List.mem_map.mpr ⟨entry, hentry, heq⟩)

/-- Entries with distinct names are the record of themselves. -/
theorem ofEntries_of_nodup {entries : List (String × α)} (h : (names entries).Nodup) :
    ofEntries entries = entries := by
  suffices hfold : ∀ done : Fields α, (names (done ++ entries)).Nodup →
      entries.foldl (fun fs entry => set fs entry.1 entry.2) done = done ++ entries from
    hfold [] h
  clear h
  induction entries with
  | nil => simp
  | cons entry entries ih =>
      intro done hnodup
      have hnew : entry.1 ∉ names done := by
        intro hmem
        rw [names, List.map_append, List.nodup_append] at hnodup
        exact hnodup.2.2 entry.1 hmem entry.1 (List.mem_cons_self ..) rfl
      rw [List.foldl_cons, set_of_not_mem _ hnew, ih _ (by rwa [List.append_assoc]),
        List.append_assoc]
      rfl

theorem ofEntries_subset (entries : List (String × α)) : ofEntries entries ⊆ entries := by
  suffices hfold : ∀ done : Fields α,
      entries.foldl (fun fs entry => set fs entry.1 entry.2) done ⊆ done ++ entries from hfold []
  induction entries with
  | nil => simp
  | cons entry entries ih =>
      intro done other hother
      rcases List.mem_append.mp (ih _ hother) with hset | hrest
      · rcases List.mem_cons.mp (set_subset _ _ _ hset) with rfl | hdone
        · simp
        · exact List.mem_append_left _ hdone
      · simp [hrest]

theorem mem_names_ofEntries {entries : List (String × α)} {name : String} :
    name ∈ names (ofEntries entries) ↔ name ∈ names entries := by
  suffices hfold : ∀ done : Fields α,
      name ∈ names (entries.foldl (fun fs entry => set fs entry.1 entry.2) done) ↔
        name ∈ names done ∨ name ∈ names entries from
    (hfold []).trans (by simp [names])
  induction entries with
  | nil => simp [names]
  | cons entry entries ih =>
      intro done
      rw [List.foldl_cons, ih, mem_names_set, or_assoc]
      simp [names]

/-- Where one value is written under all names, it is the only one. -/
theorem mem_ofEntries_constant {f : β → String} {xs : List β} {value found : α} {name : String} :
    (name, found) ∈ ofEntries (xs.map fun x => (f x, value)) ↔
      found = value ∧ ∃ x ∈ xs, f x = name := by
  have honly : ∀ entry ∈ ofEntries (xs.map fun x => (f x, value)), entry.2 = value := by
    intro entry hentry
    obtain ⟨x, -, rfl⟩ := List.mem_map.mp (ofEntries_subset _ hentry)
    rfl
  have hnames : name ∈ names (ofEntries (xs.map fun x => (f x, value))) ↔ ∃ x ∈ xs, f x = name := by
    rw [mem_names_ofEntries]
    simp [names]
  rw [← hnames]
  constructor
  · exact fun hmem => ⟨honly _ hmem, List.mem_map_of_mem hmem⟩
  · rintro ⟨hfound, hname⟩
    obtain ⟨⟨name, other⟩, hentry, rfl⟩ := List.mem_map.mp hname
    obtain rfl : other = value := honly _ hentry
    rw [hfound]
    exact hentry

theorem ofEntries_eq_nil {entries : List (String × α)} : ofEntries entries = [] ↔ entries = [] := by
  constructor
  · intro h
    apply List.eq_nil_iff_forall_not_mem.mpr
    intro entry hentry
    have hname := mem_names_ofEntries.mpr (List.mem_map_of_mem hentry)
    rw [h] at hname
    cases hname
  · rintro rfl
    rfl

end OrderDesk.Fields
