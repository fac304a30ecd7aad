import Mathlib.Tactic.Common
import OrderDesk.Proofs.Conversions
import OrderDesk.Proofs.Projections

/-! # Objects stored and written again

What is stored of an object is written as that object again, to the last bit of its numbers, and
what is written of a document is stored as that document again, with 64 bits for each whole number.
Only at the top level the identity changes its name, and with it its place. Names below that level
are kept, even where they look like that of an identity.
-/

namespace OrderDesk

namespace Fields

variable {α : Type}

/-- An entry can be taken out and put to the end. -/
theorem perm_without_append {fs : Fields α} {name : String} {value : α} (hnodup : (names fs).Nodup)
    (h : get? fs name = some value) : fs.Perm (without fs name ++ [(name, value)]) := by
  induction fs with
  | nil => cases h
  | cons entry fs ih =>
      obtain ⟨key, found⟩ := entry
      obtain ⟨hnew, hnodup⟩ := List.nodup_cons.mp hnodup
      rw [get?_cons] at h
      by_cases hkey : key = name
      · subst hkey
        rw [if_pos rfl] at h
        obtain rfl := Option.some.inj h
        have hskip : without ((key, found) :: fs) key = fs := by
          rw [without, List.filter_cons_of_neg (by simp)]
          exact without_of_not_mem hnew
        rw [hskip]
        exact (List.perm_append_singleton _ fs).symm
      · rw [if_neg hkey] at h
        have hkeep : without ((key, found) :: fs) name = (key, found) :: without fs name :=
          List.filter_cons_of_pos (by simpa using hkey)
        rw [hkeep, List.cons_append]
        exact (ih hnodup h).cons (key, found)

end Fields

namespace Json

/-- Objects with the same members are equal. -/
theorem same_of_perm {as bs : List (String × Json)} (hbs : (object bs).WellFormed)
    (h : as.Perm bs) : (object as).same (object bs) = true := by
  refine same_object_iff.mpr ⟨h.length_eq, ?_⟩
  intro member hmember
  have hmem := h.mem_iff.mp hmember
  exact ⟨member.2, Fields.get?_of_mem hbs.nodup hmem, (hbs.members member hmem).same_refl⟩

end Json

namespace Documents

/-! ### A name changed and changed back -/

section Renamed

variable {α : Type} {old new other : String} {fs : Fields α} {entry : String × α}

/-- An entry with the new name instead of the old one. -/
def renamed (old new : String) (entry : String × α) : String × α :=
  (if entry.1 = old then new else entry.1, entry.2)

theorem renamed_of_ne (h : entry.1 ≠ old) : renamed old new entry = entry := by
  rw [renamed, if_neg h]

theorem renamed_renamed (h : entry.1 ≠ new) : renamed new old (renamed old new entry) = entry := by
  by_cases hold : entry.1 = old
  · rw [renamed, renamed, if_pos hold, if_pos rfl, ← hold]
  · rw [renamed_of_ne hold, renamed_of_ne h]

theorem map_renamed_of_not_mem (h : old ∉ Fields.names fs) : fs.map (renamed old new) = fs := by
  have hsame : ∀ entry ∈ fs, renamed old new entry = id entry := by
    intro entry hentry
    apply renamed_of_ne
    exact fun heq => h (List.mem_map.mpr ⟨entry, hentry, heq⟩)
  rw [List.map_congr_left hsame, List.map_id]

theorem map_renamed_map_renamed (h : new ∉ Fields.names fs) :
    (fs.map (renamed old new)).map (renamed new old) = fs := by
  have hsame : ∀ entry ∈ fs, (renamed new old ∘ renamed old new) entry = id entry := by
    intro entry hentry
    apply renamed_renamed
    exact fun heq => h (List.mem_map.mpr ⟨entry, hentry, heq⟩)
  rw [List.map_map, List.map_congr_left hsame, List.map_id]

/-- A new name is given to one entry, and the others stay what they are. -/
theorem rename_perm (hnodup : (Fields.names fs).Nodup) (hnew : new ∉ Fields.names fs) :
    (rename fs old new).Perm (fs.map (renamed old new)) := by
  cases hget : Fields.get? fs old with
  | none =>
      rw [rename, hget, map_renamed_of_not_mem (Fields.get?_eq_none.mp hget)]
  | some value =>
      have hold : old ∉ Fields.names (Fields.without fs old) :=
        fun hmem => (Fields.mem_names_without.mp hmem).2 rfl
      have hnew' : new ∉ Fields.names (Fields.without fs old) :=
        fun hmem => hnew (Fields.mem_names_without.mp hmem).1
      -- The entry is taken out first, since only then its place does not matter.
      have hmap := (Fields.perm_without_append hnodup hget).map (renamed old new)
      rw [List.map_append, map_renamed_of_not_mem hold, List.map_singleton, renamed, if_pos rfl]
        at hmap
      rw [rename_eq hget hnew']
      exact hmap.symm

theorem nodup_names_rename (hnodup : (Fields.names fs).Nodup) :
    (Fields.names (rename fs old new)).Nodup := by
  unfold rename
  split
  · exact Fields.nodup_names_set ((List.filter_sublist.map _).nodup hnodup) _ _
  · exact hnodup

theorem mem_names_rename : other ∈ Fields.names (rename fs old new) ↔
    (other ∈ Fields.names fs ∧ other ≠ old) ∨ other = new ∧ old ∈ Fields.names fs := by
  cases hget : Fields.get? fs old with
  | none =>
      have hold := Fields.get?_eq_none.mp hget
      rw [rename, hget]
      simp only [hold, and_false, or_false]
      refine (and_iff_left_of_imp ?_).symm
      rintro hother rfl
      exact hold hother
  | some value =>
      have hold : old ∈ Fields.names fs :=
        List.mem_map.mpr ⟨_, Fields.mem_of_get? hget, rfl⟩
      simp only [rename, hget, Fields.mem_names_set, Fields.mem_names_without, hold, and_true]

theorem not_mem_names_rename (hne : old ≠ new) : old ∉ Fields.names (rename fs old new) := by
  rw [mem_names_rename]
  rintro (⟨-, hold⟩ | ⟨heq, -⟩)
  · exact hold rfl
  · exact hne heq

/-- The names of the entries are what they were before they were changed. -/
theorem map_renamed_rename_perm (hnodup : (Fields.names fs).Nodup) (hnew : new ∉ Fields.names fs) :
    ((rename fs old new).map (renamed new old)).Perm fs := by
  apply ((rename_perm hnodup hnew).map (renamed new old)).trans
  rw [map_renamed_map_renamed hnew]

/-- A name that is changed back leaves the entry at the end. -/
theorem rename_rename_perm (hne : old ≠ new) (hnodup : (Fields.names fs).Nodup)
    (hnew : new ∉ Fields.names fs) : (rename (rename fs old new) new old).Perm fs :=
  (rename_perm (nodup_names_rename hnodup) (not_mem_names_rename hne)).trans
    (map_renamed_rename_perm hnodup hnew)

end Renamed

theorem callerId_ne_storedId : callerId ≠ storedId := by decide

/-! ### From JSON and back -/

/-- A whole number keeps its class. -/
theorem ofInt64_ofInt {n : Json.Number} {i : Int} (h : n.toInt? = some i) :
    Json.Number.ofInt64 (.ofInt i) = n := by
  obtain ⟨hlow, hhigh⟩ := toInt?_bounds h
  rw [Json.Number.ofInt64]
  cases n with
  | natural m =>
      rw [Json.Number.toInt?] at h
      split at h
      · obtain rfl := Option.some.inj h
        simp only [Int64.toInt_ofInt_of_le hlow hhigh]
        rw [dif_neg (by omega), Int.toNat_natCast]
      · cases h
  | negative m range =>
      obtain rfl := Option.some.inj h
      simp only [Int64.toInt_ofInt_of_le hlow hhigh]
      rw [dif_pos range.2]
  | float x => cases h

mutual

/-- The literal of a value is written as the value. -/
theorem toJsonValue_literal (v : Json) (h : v.oversized = []) : toJsonValue (literal v) = v := by
  match v with
  | .null | .boolean b | .string s => rfl
  | .number n =>
      rw [literal, numberLiteral]
      cases hint : n.toInt? with
      | some i =>
          simp only [toJsonValue, int64Json]
          rw [ofInt64_ofInt hint]
      | none =>
          cases n with
          | natural m =>
              rw [Json.oversized] at h
              rw [Json.Number.toInt?] at hint
              split at h
              · next hsmall => rw [if_pos hsmall] at hint; cases hint
              · cases h
          | negative m range => cases hint
          | float x => rfl
  | .array items => rw [literal, toJsonValue, toJsonItems_literals items h]
  | .object members => rw [literal, toJsonValue, toJsonEntries_entryLiterals members h]

theorem toJsonItems_literals (items : List Json) (h : Json.oversizedItems items = []) :
    toJsonItems (literals items) = items := by
  match items with
  | [] => rfl
  | item :: items =>
      obtain ⟨hitem, hitems⟩ := List.append_eq_nil_iff.mp h
      rw [literals, toJsonItems, toJsonValue_literal item hitem, toJsonItems_literals items hitems]

theorem toJsonEntries_entryLiterals (members : List (String × Json))
    (h : Json.oversizedMembers members = []) : toJsonEntries (entryLiterals members) = members := by
  match members with
  | [] => rfl
  | (name, value) :: members =>
      obtain ⟨hvalue, hmembers⟩ := List.append_eq_nil_iff.mp h
      rw [entryLiterals, entryLiteral, toJsonEntries, toJsonEntry, toJsonValue_literal value hvalue,
        toJsonEntries_entryLiterals members hmembers]

end

/-! ### To JSON and back -/

/-- A value of a type that JSON has as well, in which no name is an operator. -/
inductive Ordinary : Bson → Prop
  | null : Ordinary .null
  | boolean (b : Bool) : Ordinary (.boolean b)
  | int32 (n : Int32) : Ordinary (.int32 n)
  | int64 (n : Int64) : Ordinary (.int64 n)
  | double (x : Binary64.Finite) : Ordinary (.double (.finite x))
  | string (s : String) : Ordinary (.string s)
  | array {items : List Bson} (h : ∀ item ∈ items, Ordinary item) : Ordinary (.array items)
  | document {entries : List (String × Bson)}
    (hnames : ∀ entry ∈ entries, isOperator entry.1 = false)
    (h : ∀ entry ∈ entries, Ordinary entry.2) : Ordinary (.document entries)

mutual

/-- A value with 64 bits for every whole number in it. -/
def widened : Bson → Bson
  | .int32 n => .int64 n.toInt64
  | .array items => .array (widenedItems items)
  | .document entries => .document (widenedEntries entries)
  | value => value

def widenedItems : List Bson → List Bson
  | [] => []
  | item :: items => widened item :: widenedItems items

def widenedEntries : List (String × Bson) → List (String × Bson)
  | [] => []
  | entry :: entries => widenedEntry entry :: widenedEntries entries

def widenedEntry : String × Bson → String × Bson
  | (name, value) => (name, widened value)

end

theorem widenedEntries_eq_map (entries : List (String × Bson)) :
    widenedEntries entries = entries.map widenedEntry := by
  induction entries with
  | nil => rfl
  | cons entry entries ih => rw [widenedEntries, ih, List.map_cons]

theorem names_widenedEntries (entries : List (String × Bson)) :
    Fields.names (widenedEntries entries) = Fields.names entries := by
  rw [widenedEntries_eq_map, Fields.names, List.map_map]
  apply List.map_congr_left
  rintro ⟨name, value⟩ -
  rfl

theorem map_renamed_widenedEntries (old new : String) (entries : List (String × Bson)) :
    (widenedEntries entries).map (renamed old new) =
      widenedEntries (entries.map (renamed old new)) := by
  rw [widenedEntries_eq_map, widenedEntries_eq_map, List.map_map, List.map_map]
  apply List.map_congr_left
  rintro ⟨name, value⟩ -
  rfl

theorem toInt?_ofInt64 (n : Int64) : (Json.Number.ofInt64 n).toInt? = some n.toInt := by
  have hlt := n.toInt_lt
  rw [Json.Number.ofInt64]
  split
  · rfl
  · rw [Json.Number.toInt?, if_pos (by omega), Int.toNat_of_nonneg (by omega)]

theorem recordNumber_ofInt64 (n : Int64) : recordNumber (.ofInt64 n) = .ok (.int64 n) := by
  have hlt := n.toInt_lt
  rw [Json.Number.ofInt64]
  split
  · rw [recordNumber, Int64.ofInt_toInt]
  · rw [recordNumber, if_pos (by omega), ← Int64.ofInt_eq_ofNat, Int.toNat_of_nonneg (by omega),
      Int64.ofInt_toInt]

theorem toJsonItems_eq_map (items : List Bson) : toJsonItems items = items.map toJsonValue := by
  induction items with
  | nil => rfl
  | cons item items ih => rw [toJsonItems, ih, List.map_cons]

section Parts

variable {ext : Extension} {items : List Bson} {entries : List (String × Bson)}

theorem tellItems_toJsonItems (h : ∀ item ∈ items, Tells (toJsonValue item) item) :
    TellItems (toJsonItems items) items := by
  induction items with
  | nil => exact .nil
  | cons item items ih =>
      obtain ⟨hitem, hitems⟩ := List.forall_mem_cons.mp h
      exact .cons hitem (ih hitems)

theorem tellMembers_toJsonEntries (h : ∀ entry ∈ entries, Tells (toJsonValue entry.2) entry.2) :
    TellMembers (toJsonEntries entries) entries := by
  induction entries with
  | nil => exact .nil
  | cons entry entries ih =>
      obtain ⟨name, value⟩ := entry
      obtain ⟨hentry, hentries⟩ := List.forall_mem_cons.mp h
      exact .cons name hentry (ih hentries)

theorem storedItems_toJsonItems
    (h : ∀ item ∈ items, stored ext (toJsonValue item) = .ok (widened item)) :
    storedItems ext (toJsonItems items) = .ok (widenedItems items) := by
  induction items with
  | nil => rfl
  | cons item items ih =>
      obtain ⟨hitem, hitems⟩ := List.forall_mem_cons.mp h
      rw [toJsonItems, storedItems, hitem, ih hitems]
      rfl

theorem storedMembers_toJsonEntries
    (h : ∀ entry ∈ entries, stored ext (toJsonValue entry.2) = .ok (widened entry.2)) :
    storedMembers ext (toJsonEntries entries) = .ok (widenedEntries entries) := by
  induction entries with
  | nil => rfl
  | cons entry entries ih =>
      obtain ⟨name, value⟩ := entry
      obtain ⟨hentry, hentries⟩ := List.forall_mem_cons.mp h
      rw [toJsonEntries, toJsonEntry, storedMembers, storedMember, hentry, ih hentries]
      rfl

end Parts

namespace Ordinary

variable {b : Bson}

/-- What is written of a value says what the value says. -/
theorem tells (h : Ordinary b) : Tells (toJsonValue b) b := by
  induction h with
  | null => exact .null
  | boolean b => exact .boolean b
  | int32 n => exact .int32 (by rw [toInt?_ofInt64, Int32.toInt_toInt64])
  | int64 n => exact .int64 (toInt?_ofInt64 n)
  | double x => exact .double rfl
  | string s => exact .string s
  | array h ih => exact .array (tellItems_toJsonItems ih)
  | document hnames h ih => exact .document (tellMembers_toJsonEntries ih)

/-- What is written of a value is stored as the value, in which whole numbers are wide. -/
theorem stored_toJsonValue (h : Ordinary b) (ext : Extension) :
    stored ext (toJsonValue b) = .ok (widened b) := by
  induction h with
  | null | boolean b | string s | double x => rfl
  | int32 n => exact recordNumber_ofInt64 n.toInt64
  | int64 n => exact recordNumber_ofInt64 n
  | array h ih =>
      rw [toJsonValue, stored, storedItems_toJsonItems ih]
      rfl
  | @document entries hnames h ih =>
      have hread : ext.read (widenedEntries entries) = .document (widenedEntries entries) := by
        apply ext.read_of_value?_eq_none
        apply ext.value?_eq_none
        rw [widenedEntries_eq_map]
        intro entry hentry
        obtain ⟨⟨name, value⟩, hmem, rfl⟩ := List.mem_map.mp hentry
        exact hnames (name, value) hmem
      rw [toJsonValue, stored, storedMembers_toJsonEntries ih, widened, ← hread]
      rfl

/-- No reserved name is written, so that no object that is written is taken for another type. -/
theorem isOperator_eq_false (h : Ordinary b) {members : List (String × Json)}
    (hcontains : Json.Contains (.object members) (toJsonValue b)) :
    ∀ member ∈ members, isOperator member.1 = false := by
  induction h with
  | null | boolean b | int32 n | int64 n | double x | string s => cases hcontains
  | array h ih =>
      rw [toJsonValue, toJsonItems_eq_map] at hcontains
      cases hcontains with
      | item hmem hinner =>
          obtain ⟨item, hitem, rfl⟩ := List.mem_map.mp hmem
          exact ih item hitem hinner
  | document hnames h ih =>
      rw [toJsonValue, toJsonEntries_eq_map] at hcontains
      cases hcontains with
      | self =>
          intro member hmember
          obtain ⟨⟨name, value⟩, hentry, rfl⟩ := List.mem_map.mp hmember
          exact hnames _ hentry
      | member hmem hinner =>
          obtain ⟨⟨name, value⟩, hentry, rfl⟩ := List.mem_map.mp hmem
          exact ih _ hentry hinner

/-- The identity may be renamed. -/
theorem rename_storedId {d : Document} (h : Ordinary (.document d))
    (hnodup : (Fields.names d).Nodup) (hcaller : callerId ∉ Fields.names d) :
    Ordinary (.document (rename d storedId callerId)) := by
  cases h with
  | document hnames hvalues =>
      have hrenamed : ∀ entry ∈ rename d storedId callerId,
          isOperator entry.1 = false ∧ Ordinary entry.2 := by
        intro entry hentry
        have hmem := (rename_perm hnodup hcaller).mem_iff.mp hentry
        obtain ⟨other, hother, rfl⟩ := List.mem_map.mp hmem
        refine ⟨?_, hvalues other hother⟩
        rw [renamed]
        split
        · change isOperator callerId = false
          decide
        · exact hnames other hother
      exact .document (fun entry hentry => (hrenamed entry hentry).1)
        fun entry hentry => (hrenamed entry hentry).2

end Ordinary

/-! ### Whole objects -/

/-- The entries of a document say what members say, each under the stored form of a name. -/
def Records (members : List (String × Json)) (d : Document) : Prop :=
  ∃ entries, TellMembers members entries ∧
    d.Perm (entries.map fun entry => (storedName entry.1, entry.2))

/-- An object is stored as a document, which is written as that object. -/
structure StoredAndWritten (ext : Extension) (members : List (String × Json)) (d : Document) :
    Prop where
  ofJson_eq : ofJson (.object members) ext = .ok d
  records : Records members d
  callerId_not_mem : callerId ∉ Fields.names d
  storedId_mem_iff : storedId ∈ Fields.names d ↔ callerId ∈ Fields.names members
  written : ∃ back, toJson d = .object back ∧ back.Perm members ∧
    (Json.object back).same (.object members) = true

/-- A document is written as an object, which is stored as that document up to the width of whole
numbers. -/
structure WrittenAndStored (ext : Extension) (d : Document) (members : List (String × Json)) :
    Prop where
  toJson_eq : toJson d = .object members
  records : Records members d
  unreserved : ∀ inner, Json.Contains (.object inner) (.object members) →
    ∀ member ∈ inner, isOperator member.1 = false
  leavesAlone : ext.LeavesAlone (.object members)
  stored : ∃ back, ofJson (.object members) ext = .ok back ∧ back.Perm (widenedEntries d)

section Objects

variable {ext : Extension}

theorem storedAndWritten {members : List (String × Json)} (h : (Json.object members).WellFormed)
    (hstored : storedId ∉ Fields.names members) (hsmall : ¬(Json.object members).Oversized)
    (halone : ext.LeavesAlone (.object members)) :
    StoredAndWritten ext members (rename (entryLiterals members) callerId storedId) := by
  have hnodup : (Fields.names (entryLiterals members)).Nodup :=
    (names_entryLiterals members).symm ▸ h.nodup
  have hnew : storedId ∉ Fields.names (entryLiterals members) :=
    (names_entryLiterals members).symm ▸ hstored
  constructor
  case ofJson_eq => exact ofJson_object halone hsmall
  case records => exact ⟨_, tellMembers_entryLiterals members, rename_perm hnodup hnew⟩
  case callerId_not_mem => exact not_mem_names_rename callerId_ne_storedId
  case storedId_mem_iff =>
    rw [mem_names_rename, names_entryLiterals]
    simp only [hstored, false_and, false_or, true_and]
  case written =>
    have hback : toJson (rename (entryLiterals members) callerId storedId) =
        .object (toJsonEntries
          (rename (rename (entryLiterals members) callerId storedId) storedId callerId)) := rfl
    have hperm := (rename_rename_perm callerId_ne_storedId hnodup hnew).map toJsonEntry
    rw [← toJsonEntries_eq_map, ← toJsonEntries_eq_map, toJsonEntries_entryLiterals members
      (Json.oversized_eq_nil_iff.mpr hsmall)] at hperm
    exact ⟨_, hback, hperm, Json.same_of_perm h hperm⟩

theorem writtenAndStored {d : Document} (h : Ordinary (.document d))
    (hnodup : (Fields.names d).Nodup) (hcaller : callerId ∉ Fields.names d) :
    WrittenAndStored ext d (toJsonEntries (rename d storedId callerId)) := by
  have hordinary := h.rename_storedId hnodup hcaller
  have hperm : ((rename d storedId callerId).map (renamed callerId storedId)).Perm d :=
    map_renamed_rename_perm hnodup hcaller
  have htells := hordinary.tells
  constructor
  case toJson_eq => rfl
  case records =>
    rw [toJsonValue] at htells
    cases htells with
    | document htells => exact ⟨_, htells, hperm.symm⟩
  case unreserved => exact fun inner hinner => hordinary.isOperator_eq_false hinner
  case leavesAlone =>
    exact Extension.leavesAlone_of_forall fun inner hinner => hordinary.isOperator_eq_false hinner
  case stored =>
    have hstored := hordinary.stored_toJsonValue ext
    have hnames := names_widenedEntries (rename d storedId callerId)
    rw [toJsonValue] at hstored
    refine ⟨rename (widenedEntries (rename d storedId callerId)) callerId storedId, ?_, ?_⟩
    · rw [ofJson_eq, hstored, widened]
      rfl
    · apply (rename_perm (hnames ▸ nodup_names_rename hnodup) ?_).trans
      · rw [map_renamed_widenedEntries, widenedEntries_eq_map, widenedEntries_eq_map]
        exact hperm.map widenedEntry
      · rw [hnames]
        exact not_mem_names_rename callerId_ne_storedId.symm

end Objects

/-- Storing and writing undo each other, whatever objects spell other values. An object in which
none does is written again as it was, unless a number in it is too large to be stored, and a
document is stored again as it was but for the width of its whole numbers, if there are no types in
it that JSON lacks. Below the top level, all names stay what they are, and so does their order. -/
theorem storing_and_writing_undo (ext : Extension) :
    (∀ members : List (String × Json), (Json.object members).WellFormed →
      "_id" ∉ Fields.names members → ¬(Json.object members).Oversized →
        ext.LeavesAlone (.object members) → ∃ d, StoredAndWritten ext members d) ∧
      ∀ d : Document, Ordinary (.document d) → (Fields.names d).Nodup → "id" ∉ Fields.names d →
        ∃ members, WrittenAndStored ext d members := by
  constructor
  · intro members h hstored hsmall halone
    exact ⟨_, storedAndWritten h hstored hsmall halone⟩
  · intro d h hnodup hcaller
    exact ⟨_, writtenAndStored h hnodup hcaller⟩

/-- A part with names of identities and with a negative zero, in an object and in a document that
have an identity of their own. -/
theorem storing_and_writing_undo_part :
    let ext := Extension.objectIds
    let zero : Binary64.Finite := { negative := true, mantissa := 0, exponent := 0 }
    let members : List (String × Json) := [("id", .string "x"), ("part", .object
      [("_id", .number (.negative (-1) (by decide))), ("id", .number (.float zero))])]
    let d : Document := [("_id", .string "x"), ("part", .document
      [("_id", .int32 (-1)), ("id", .double (.finite zero))])]
    ((Json.object members).WellFormed ∧ "_id" ∉ Fields.names members ∧
        ¬(Json.object members).Oversized ∧ ext.LeavesAlone (.object members) ∧
        ∃ stored, StoredAndWritten ext members stored) ∧
      Ordinary (.document d) ∧ (Fields.names d).Nodup ∧ "id" ∉ Fields.names d ∧
        ∃ back, ofJson (toJson d) ext = .ok back ∧
          back.Perm [("_id", .string "x"), ("part", .document
            [("_id", .int64 (-1)), ("id", .double (.finite zero))])] := by
  intro ext zero members d
  have hmembers : (Json.object members).WellFormed := by
    refine .object (by decide) (List.forall_mem_cons.mpr ⟨.string "x", ?_⟩)
    refine List.forall_mem_singleton.mpr (.object (by decide) ?_)
    exact List.forall_mem_cons.mpr ⟨.number _, List.forall_mem_singleton.mpr (.number _)⟩
  have hsmall : ¬(Json.object members).Oversized := Json.oversized_eq_nil_iff.mp (by decide +kernel)
  have halone : ext.LeavesAlone (.object members) := by
    have hscalar : ∀ v : Json, v.isScalar = true → ext.LeavesAlone v :=
      fun v => Extension.leavesAlone_of_isScalar
    simp only [members, Extension.leavesAlone_object_iff, List.forall_mem_cons,
      List.not_mem_nil, false_imp_iff, implies_true, and_true]
    exact ⟨rfl, hscalar _ rfl, rfl, hscalar _ rfl, hscalar _ rfl⟩
  have hordinary : Ordinary (.document d) := by
    refine .document (by decide) (List.forall_mem_cons.mpr ⟨.string "x", ?_⟩)
    refine List.forall_mem_singleton.mpr (.document (by decide) ?_)
    exact List.forall_mem_cons.mpr ⟨.int32 (-1), List.forall_mem_singleton.mpr (.double zero)⟩
  obtain ⟨hstore, hwrite⟩ := storing_and_writing_undo ext
  refine ⟨⟨hmembers, by decide, hsmall, halone,
    hstore members hmembers (by decide) hsmall halone⟩, hordinary, by decide, by decide, ?_⟩
  obtain ⟨written, hwritten⟩ := hwrite d hordinary (by decide) (by decide)
  rw [hwritten.toJson_eq]
  exact hwritten.stored

end Documents

end OrderDesk
