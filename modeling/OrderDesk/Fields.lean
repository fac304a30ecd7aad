/-!
# Named entries in order of arrival

An object, a document and an index keep their entries in the order in which the names first
arrived. Writing to a name that is present changes its value where it stands; a new name goes to
the end.
-/

namespace OrderDesk

/-- Named entries, in order of first arrival. -/
abbrev Fields (α : Type) := List (String × α)

namespace Fields

variable {α : Type}

/-- The value under a name. -/
def get? (fs : Fields α) (name : String) : Option α := fs.lookup name

/-- Writes a value under a name: in place if the name is present, else at the end. -/
def set : Fields α → String → α → Fields α
  | [], name, value => [(name, value)]
  | entry :: fs, name, value =>
    if entry.1 = name then (name, value) :: fs else entry :: set fs name value

/-- The entries under other names. -/
def without (fs : Fields α) (name : String) : Fields α := fs.filter (·.1 ≠ name)

def names (fs : Fields α) : List String := fs.map (·.1)

/-- Whether a name is present. -/
def has (fs : Fields α) (name : String) : Bool := fs.any (·.1 = name)

/-- The fields that result from writing entries one after the other. -/
def ofEntries (entries : List (String × α)) : Fields α :=
  entries.foldl (fun fs entry => set fs entry.1 entry.2) []

@[simp] theorem get?_nil (name : String) : get? ([] : Fields α) name = none := rfl

theorem get?_cons (entry : String × α) (fs : Fields α) (name : String) :
    get? (entry :: fs) name = if entry.1 = name then some entry.2 else get? fs name := by
  obtain ⟨key, value⟩ := entry
  by_cases h : key = name
  · subst h
    simp [get?]
  · have hne : (name == key) = false := by simpa using Ne.symm h
    simp [get?, List.lookup_cons, h, hne]

/-- A written value is found again. -/
@[simp] theorem get?_set_self (fs : Fields α) (name : String) (value : α) :
    get? (set fs name value) name = some value := by
  induction fs with
  | nil => simp [set, get?_cons]
  | cons entry fs ih =>
    unfold set
    split
    · simp [get?_cons]
    · rename_i h
      simp [get?_cons, h, ih]

/-- Writing under one name leaves the others alone. -/
theorem get?_set_of_ne (fs : Fields α) {name other : String} (value : α) (h : name ≠ other) :
    get? (set fs name value) other = get? fs other := by
  induction fs with
  | nil => simp [set, get?_cons, h]
  | cons entry fs ih =>
    unfold set
    split
    · rename_i hkey
      subst hkey
      simp [get?_cons, h]
    · simp [get?_cons, ih]

/-- A name that is present keeps its place; a new one goes to the end. -/
theorem names_set (fs : Fields α) (name : String) (value : α) :
    names (set fs name value) = if name ∈ names fs then names fs else names fs ++ [name] := by
  induction fs with
  | nil => simp [set, names]
  | cons entry fs ih =>
    unfold set
    by_cases hkey : entry.1 = name
    · simp [names, hkey]
    · have hkey' : name ≠ entry.1 := Ne.symm hkey
      by_cases hmem : name ∈ names fs
      · rw [if_pos hmem] at ih
        simp_all [names]
      · rw [if_neg hmem] at ih
        simp_all [names]

/-- Distinct names stay distinct. -/
theorem nodup_names_set {fs : Fields α} (h : (names fs).Nodup) (name : String) (value : α) :
    (names (set fs name value)).Nodup := by
  rw [names_set]
  split
  · exact h
  · rename_i hmem
    rw [List.nodup_append]
    refine ⟨h, by simp, ?_⟩
    intro a ha b hb hab
    simp only [List.mem_singleton] at hb
    subst hb
    subst hab
    exact hmem ha

end Fields

end OrderDesk
