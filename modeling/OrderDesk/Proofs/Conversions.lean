import Mathlib.Tactic.Common
import OrderDesk.Documents.Record
import OrderDesk.Proofs.Containers

/-! # Stored values and literals

A JSON value is stored in a record by one conversion, and compared to in a query by another one. The
first refuses whole numbers that 64 bits with a sign do not hold, wherever they stand; the second
has a value for every one. Where both have a value it is the same, so that a query for a value finds
the records that hold it. Objects that spell values of types that JSON lacks are none of this: in a
query they are documents.
-/

namespace OrderDesk

namespace Json

/-! ### What stands in a value -/

/-- A value stands in another one, at any depth. -/
inductive Contains (part : Json) : Json → Prop
  | self : Contains part part
  | item {items : List Json} {item : Json} (hmem : item ∈ items) (h : Contains part item) :
    Contains part (array items)
  | member {members : List (String × Json)} {member : String × Json} (hmem : member ∈ members)
    (h : Contains part member.2) : Contains part (object members)

/-- A whole number above those that 64 bits with a sign hold stands in a value. -/
def Oversized (v : Json) : Prop := ∃ n, 0x8000000000000000 ≤ n ∧ Contains (ofNat n) v

mutual

/-- The whole numbers above those that 64 bits with a sign hold, in the order in which they are
written. -/
def oversized : Json → List Nat
  | number (.natural n) => if n < 0x8000000000000000 then [] else [n]
  | array items => oversizedItems items
  | object members => oversizedMembers members
  | _ => []

def oversizedItems : List Json → List Nat
  | [] => []
  | item :: items => oversized item ++ oversizedItems items

def oversizedMembers : List (String × Json) → List Nat
  | [] => []
  | member :: members => oversizedMember member ++ oversizedMembers members

def oversizedMember : String × Json → List Nat
  | (_, value) => oversized value

end

theorem oversizedItems_eq (items : List Json) : oversizedItems items = items.flatMap oversized := by
  induction items with
  | nil => rfl
  | cons item items ih => rw [oversizedItems, ih, List.flatMap_cons]

theorem oversizedMembers_eq (members : List (String × Json)) :
    oversizedMembers members = members.flatMap (oversized ·.2) := by
  induction members with
  | nil => rfl
  | cons member members ih => rw [oversizedMembers, oversizedMember, ih, List.flatMap_cons]

theorem le_and_contains_of_mem_oversized {n : Nat} {v : Json} (h : n ∈ v.oversized) :
    0x8000000000000000 ≤ n ∧ Contains (ofNat n) v := by
  induction v using inductionOn with
  | null | boolean b | string s => cases h
  | number m =>
      cases m with
      | negative i range | float x => cases h
      | natural m =>
          rw [oversized] at h
          split at h
          · cases h
          · next hlarge =>
            obtain rfl := List.mem_singleton.mp h
            exact ⟨Nat.le_of_not_lt hlarge, .self⟩
  | array items ih =>
      rw [oversized, oversizedItems_eq, List.mem_flatMap] at h
      obtain ⟨item, hmem, hn⟩ := h
      obtain ⟨hlarge, hcontains⟩ := ih item hmem hn
      exact ⟨hlarge, .item hmem hcontains⟩
  | object members ih =>
      rw [oversized, oversizedMembers_eq, List.mem_flatMap] at h
      obtain ⟨member, hmem, hn⟩ := h
      obtain ⟨hlarge, hcontains⟩ := ih member hmem hn
      exact ⟨hlarge, .member hmem hcontains⟩

theorem mem_oversized_iff {n : Nat} {v : Json} :
    n ∈ v.oversized ↔ 0x8000000000000000 ≤ n ∧ Contains (ofNat n) v := by
  refine ⟨le_and_contains_of_mem_oversized, ?_⟩
  rintro ⟨hlarge, hcontains⟩
  induction hcontains with
  | self =>
      rw [ofNat, oversized, if_neg (Nat.not_lt_of_le hlarge)]
      exact List.mem_singleton_self n
  | item hmem _ ih =>
      rw [oversized, oversizedItems_eq]
      exact List.mem_flatMap.mpr ⟨_, hmem, ih⟩
  | member hmem _ ih =>
      rw [oversized, oversizedMembers_eq]
      exact List.mem_flatMap.mpr ⟨_, hmem, ih⟩

theorem oversized_eq_nil_iff {v : Json} : v.oversized = [] ↔ ¬v.Oversized := by
  rw [List.eq_nil_iff_forall_not_mem, Oversized, not_exists]
  exact forall_congr' fun n => not_congr mem_oversized_iff

end Json

namespace Documents

/-! ### Literals -/

mutual

/-- A stored value says what a JSON value says: whole numbers that 64 bits with a sign hold are such
numbers, of either width, all others are doubles, and containers are converted part by part. -/
inductive Tells : Json → Bson → Prop
  | null : Tells .null .null
  | boolean (b : Bool) : Tells (.boolean b) (.boolean b)
  | string (s : String) : Tells (.string s) (.string s)
  | int32 {n : Json.Number} {i : Int32} (h : n.toInt? = some i.toInt) :
    Tells (.number n) (.int32 i)
  | int64 {n : Json.Number} {i : Int64} (h : n.toInt? = some i.toInt) :
    Tells (.number n) (.int64 i)
  | double {n : Json.Number} (h : n.toInt? = none) : Tells (.number n) (.double n.toBinary64)
  | array {items : List Json} {values : List Bson} (h : TellItems items values) :
    Tells (.array items) (.array values)
  | document {members : List (String × Json)} {entries : List (String × Bson)}
    (h : TellMembers members entries) : Tells (.object members) (.document entries)

inductive TellItems : List Json → List Bson → Prop
  | nil : TellItems [] []
  | cons {item : Json} {items : List Json} {value : Bson} {values : List Bson}
    (head : Tells item value) (tail : TellItems items values) :
    TellItems (item :: items) (value :: values)

inductive TellMembers : List (String × Json) → List (String × Bson) → Prop
  | nil : TellMembers [] []
  | cons (name : String) {item : Json} {members : List (String × Json)} {value : Bson}
    {entries : List (String × Bson)} (head : Tells item value)
    (tail : TellMembers members entries) :
    TellMembers ((name, item) :: members) ((name, value) :: entries)

end

theorem toInt?_bounds {n : Json.Number} {i : Int} (h : n.toInt? = some i) :
    -0x8000000000000000 ≤ i ∧ i < 0x8000000000000000 := by
  cases n with
  | natural m =>
      rw [Json.Number.toInt?] at h
      split at h
      · obtain rfl := Option.some.inj h
        omega
      · cases h
  | negative m range =>
      obtain rfl := Option.some.inj h
      omega
  | float x => cases h

theorem tells_numberLiteral (n : Json.Number) : Tells (.number n) (numberLiteral n) := by
  unfold numberLiteral
  cases h : n.toInt? with
  | none => exact .double h
  | some i =>
      obtain ⟨hlow, hhigh⟩ := toInt?_bounds h
      exact .int64 (by rw [h, Int64.toInt_ofInt_of_le hlow hhigh])

mutual

/-- Every value has a literal, which says the same. -/
theorem tells_literal (v : Json) : Tells v (literal v) := by
  match v with
  | .null => exact .null
  | .boolean b => exact .boolean b
  | .number n => exact tells_numberLiteral n
  | .string s => exact .string s
  | .array items => exact .array (tellItems_literals items)
  | .object members => exact .document (tellMembers_entryLiterals members)

theorem tellItems_literals (items : List Json) : TellItems items (literals items) := by
  match items with
  | [] => exact .nil
  | item :: items => exact .cons (tells_literal item) (tellItems_literals items)

theorem tellMembers_entryLiterals (members : List (String × Json)) :
    TellMembers members (entryLiterals members) := by
  match members with
  | [] => exact .nil
  | (name, item) :: members =>
      exact .cons name (tells_literal item) (tellMembers_entryLiterals members)

end

theorem names_entryLiterals (members : List (String × Json)) :
    Fields.names (entryLiterals members) = Fields.names members := by
  induction members with
  | nil => rfl
  | cons member members ih =>
      obtain ⟨name, value⟩ := member
      exact congrArg (name :: ·) ih

/-! ### Objects that spell other values -/

/-- No object in a value spells a value of another type. -/
def Extension.LeavesAlone (ext : Extension) (v : Json) : Prop :=
  ∀ members, Json.Contains (.object members) v → ext.value? (entryLiterals members) = .none

namespace Extension

variable {ext : Extension} {v : Json} {items : List Json} {members : List (String × Json)}

/-- Where all objects are documents, every value is left alone. -/
theorem leavesAlone_none (v : Json) : Extension.none.LeavesAlone v := fun _ _ => rfl

/-- Objects without names that are set apart are left alone. -/
theorem leavesAlone_of_forall (h : ∀ members, Json.Contains (.object members) v →
    ∀ member ∈ members, isOperator member.1 = false) : ext.LeavesAlone v := by
  intro members hcontains
  apply ext.value?_eq_none
  intro entry hentry
  have hname : entry.1 ∈ Fields.names members :=
    names_entryLiterals members ▸ List.mem_map_of_mem hentry
  obtain ⟨member, hmember, heq⟩ := List.mem_map.mp hname
  rw [← heq]
  exact h members hcontains member hmember

theorem leavesAlone_of_isScalar (h : v.isScalar = true) : ext.LeavesAlone v := by
  intro members hcontains
  cases hcontains with
  | self | item hmem h' | member hmem h' => cases h

theorem leavesAlone_array_iff :
    ext.LeavesAlone (.array items) ↔ ∀ item ∈ items, ext.LeavesAlone item := by
  constructor
  · exact fun h item hitem members hcontains => h members (.item hitem hcontains)
  · intro h members hcontains
    cases hcontains with
    | item hmem hinner => exact h _ hmem members hinner

theorem leavesAlone_object_iff : ext.LeavesAlone (.object members) ↔
    ext.value? (entryLiterals members) = .none ∧ ∀ member ∈ members, ext.LeavesAlone member.2 := by
  constructor
  · intro h
    exact ⟨h members .self,
      fun member hmember inner hcontains => h inner (.member hmember hcontains)⟩
  · rintro ⟨hself, hmembers⟩ inner hcontains
    cases hcontains with
    | self => exact hself
    | member hmem hinner => exact hmembers _ hmem inner hinner

end Extension

/-! ### Stored values -/

/-- A result, unless there are numbers that are too large; the first of them is reported. -/
def unlessTooLarge {β : Type} (b : β) : List Nat → Except RecordFault β
  | [] => .ok b
  | n :: _ => .error (.tooLarge n)

/-- Of two results, the first one is made first. -/
theorem unlessTooLarge_bind {β γ δ : Type} (b : β) (c : γ) (pair : β → γ → δ) (xs ys : List Nat) :
    (unlessTooLarge b xs >>= fun b => unlessTooLarge c ys >>= fun c => .ok (pair b c)) =
      unlessTooLarge (pair b c) (xs ++ ys) := by
  cases xs with
  | nil => cases ys <;> rfl
  | cons n xs => rfl

theorem unlessTooLarge_map {β γ : Type} (b : β) (f : β → γ) (xs : List Nat) :
    (unlessTooLarge b xs >>= fun b => .ok (f b)) = unlessTooLarge (f b) xs := by
  cases xs <;> rfl

theorem recordNumber_eq (n : Json.Number) :
    recordNumber n = unlessTooLarge (numberLiteral n) (Json.number n).oversized := by
  cases n with
  | natural n =>
      rw [recordNumber, numberLiteral, Json.Number.toInt?, Json.oversized]
      split <;> rfl
  | negative i range => rfl
  | float x => rfl

section Stored

variable {ext : Extension}

mutual

/-- A value is stored as its literal, unless a number in it is too large. -/
theorem stored_eq (v : Json) (h : ext.LeavesAlone v) :
    stored ext v = unlessTooLarge (literal v) v.oversized := by
  match v with
  | .null | .boolean b | .string s => rfl
  | .number n => exact recordNumber_eq n
  | .array items =>
      rw [stored, storedItems_eq items (Extension.leavesAlone_array_iff.mp h)]
      exact unlessTooLarge_map _ _ _
  | .object members =>
      obtain ⟨hself, hmembers⟩ := Extension.leavesAlone_object_iff.mp h
      rw [stored, storedMembers_eq members hmembers, literal, ← ext.read_of_value?_eq_none hself]
      exact unlessTooLarge_map _ _ _

theorem storedItems_eq (items : List Json) (h : ∀ item ∈ items, ext.LeavesAlone item) :
    storedItems ext items = unlessTooLarge (literals items) (Json.oversizedItems items) := by
  match items with
  | [] => rfl
  | item :: items =>
      obtain ⟨hitem, hitems⟩ := List.forall_mem_cons.mp h
      rw [storedItems, stored_eq item hitem, storedItems_eq items hitems]
      exact unlessTooLarge_bind _ _ List.cons _ _

theorem storedMembers_eq (members : List (String × Json))
    (h : ∀ member ∈ members, ext.LeavesAlone member.2) :
    storedMembers ext members =
      unlessTooLarge (entryLiterals members) (Json.oversizedMembers members) := by
  match members with
  | [] => rfl
  | member :: members =>
      obtain ⟨hmember, hmembers⟩ := List.forall_mem_cons.mp h
      rw [storedMembers, storedMember_eq member hmember, storedMembers_eq members hmembers]
      exact unlessTooLarge_bind _ _ List.cons _ _

theorem storedMember_eq (member : String × Json) (h : ext.LeavesAlone member.2) :
    storedMember ext member =
      unlessTooLarge (entryLiteral member) (Json.oversizedMember member) := by
  match member with
  | (name, value) =>
      rw [storedMember, stored_eq value h]
      exact unlessTooLarge_map _ _ _

end

variable {v : Json} (h : ext.LeavesAlone v)

include h

theorem stored_eq_error_iff {fault : RecordFault} :
    stored ext v = .error fault ↔ ∃ n, v.oversized.head? = some n ∧ fault = .tooLarge n := by
  rw [stored_eq v h]
  cases v.oversized with
  | nil => simp [unlessTooLarge]
  | cons n ns => simp [unlessTooLarge, eq_comm]

theorem exists_stored_eq_error_iff : (∃ fault, stored ext v = .error fault) ↔ v.Oversized := by
  rw [← not_iff_not, ← Json.oversized_eq_nil_iff, stored_eq v h]
  cases v.oversized <;> simp [unlessTooLarge]

theorem stored_of_not_oversized (hsmall : ¬v.Oversized) : stored ext v = .ok (literal v) := by
  rw [stored_eq v h, Json.oversized_eq_nil_iff.mpr hsmall]
  rfl

end Stored

/-! ### Records -/

section Records

variable {ext : Extension} {v : Json} {members : List (String × Json)}

theorem ofJson_eq (v : Json) (ext : Extension) :
    ofJson v ext = stored ext v >>= fun found =>
      match found with
      | .document entries => .ok (rename entries callerId storedId)
      | _ => .error .notAnObject := rfl

theorem ofJson_object (h : ext.LeavesAlone (.object members))
    (hsmall : ¬(Json.object members).Oversized) :
    ofJson (.object members) ext = .ok (rename (entryLiterals members) callerId storedId) := by
  rw [ofJson_eq, stored_of_not_oversized h hsmall]
  rfl

theorem ofJson_of_ne_object (h : ext.LeavesAlone v) (hobject : ∀ members, v ≠ .object members)
    (hsmall : ¬v.Oversized) : ofJson v ext = .error .notAnObject := by
  rw [ofJson_eq, stored_of_not_oversized h hsmall]
  cases v with
  | object members => exact absurd rfl (hobject members)
  | number n =>
      rw [literal, numberLiteral]
      cases n.toInt? <;> rfl
  | null | boolean b | string s | array items => rfl

/-- A value is no record exactly if it is no object, or if a number in it is too large. -/
theorem exists_ofJson_eq_error_iff (h : ext.LeavesAlone v) :
    (∃ fault, ofJson v ext = .error fault) ↔ (∀ members, v ≠ .object members) ∨ v.Oversized := by
  by_cases hlarge : v.Oversized
  · obtain ⟨fault, hfault⟩ := (exists_stored_eq_error_iff h).mpr hlarge
    refine iff_of_true ⟨fault, ?_⟩ (.inr hlarge)
    rw [ofJson_eq, hfault]
    rfl
  · by_cases hobject : ∃ members, v = .object members
    · obtain ⟨members, rfl⟩ := hobject
      rw [ofJson_object h hlarge]
      simp [hlarge]
    · rw [not_exists] at hobject
      exact iff_of_true ⟨_, ofJson_of_ne_object h hobject hlarge⟩ (.inl hobject)

end Records

/-- A value and its literal agree: the literal says what the value says, the value is stored as its
literal, and it is not stored exactly if a number in it, at any depth, is too large. The first such
number is reported. -/
structure StoredAlike (ext : Extension) (v : Json) : Prop where
  tells : Tells v (literal v)
  fails_iff : (∃ fault, stored ext v = .error fault) ↔ v.Oversized
  fault_iff : ∀ fault, stored ext v = .error fault ↔
    ∃ n, v.oversized.head? = some n ∧ fault = .tooLarge n
  stored_eq : ¬v.Oversized → stored ext v = .ok (literal v)

/-- Every value in which no object spells another one is stored as its literal, unless a number in
it is too large. A whole body is stored under the same condition if it is an object, with the
literals of its members and the identity renamed, and not at all else. -/
theorem stored_as_literal (ext : Extension) (v : Json) (h : ext.LeavesAlone v) :
    StoredAlike ext v ∧
      ((∃ fault, ofJson v ext = .error fault) ↔
        (∀ members, v ≠ .object members) ∨ v.Oversized) ∧
      ∀ members, v = .object members → ¬v.Oversized →
        ofJson v ext = .ok (rename (entryLiterals members) "id" "_id") := by
  refine ⟨?_, exists_ofJson_eq_error_iff h, ?_⟩
  · exact
      { tells := tells_literal v
        fails_iff := exists_stored_eq_error_iff h
        fault_iff := fun _ => stored_eq_error_iff h
        stored_eq := stored_of_not_oversized h }
  · rintro members rfl hsmall
    exact ofJson_object h hsmall

/-- Objects that spell an identity of the database. -/
def Extension.objectIds : Extension where
  value?
    | [("$oid", .string hex)] => some (.objectId hex)
    | _ => .none
  exists_isOperator := by
    intro d b h
    split at h
    · have hoperator : isOperator "$oid" = true := by decide
      exact ⟨_, List.mem_singleton_self _, hoperator⟩
    · cases h

/-- An object that spells an identity, and bodies in which nothing is spelled so: one with the
largest number that is stored, and one with the next number. -/
theorem stored_as_literal_boundary :
    let ext := Extension.objectIds
    let spelled : Json := .object [("$oid", .string "656c6c6f")]
    let body (n : Nat) : Json := .object [("id", .string "x"),
      ("lineItems", .array [.object [("quantity", .ofNat n), ("unitPrice", .null)]])]
    (stored ext spelled = .ok (.objectId "656c6c6f") ∧
        stored .none spelled = .ok (literal spelled)) ∧
      (ext.LeavesAlone (body 0x7FFFFFFFFFFFFFFF) ∧ ¬(body 0x7FFFFFFFFFFFFFFF).Oversized ∧
        stored ext (body 0x7FFFFFFFFFFFFFFF) = .ok (literal (body 0x7FFFFFFFFFFFFFFF)) ∧
        ofJson (body 0x7FFFFFFFFFFFFFFF) ext = .ok [
          ("lineItems", .array [.document [("quantity", .int64 0x7FFFFFFFFFFFFFFF),
            ("unitPrice", .null)]]),
          ("_id", .string "x")]) ∧
      ext.LeavesAlone (body 0x8000000000000000) ∧ (body 0x8000000000000000).Oversized ∧
        stored ext (body 0x8000000000000000) = .error (.tooLarge 0x8000000000000000) ∧
        ∃ fault, ofJson (body 0x8000000000000000) ext = .error fault := by
  intro ext spelled body
  have hspelled : ¬spelled.Oversized := Json.oversized_eq_nil_iff.mp rfl
  obtain ⟨hdocument, -⟩ := stored_as_literal .none spelled (Extension.leavesAlone_none spelled)
  have halone : ∀ n, ext.LeavesAlone (body n) := by
    intro n
    have hscalar : ∀ v : Json, v.isScalar = true → ext.LeavesAlone v :=
      fun v => Extension.leavesAlone_of_isScalar
    simp only [body, Extension.leavesAlone_object_iff, Extension.leavesAlone_array_iff,
      List.forall_mem_cons, List.not_mem_nil, false_imp_iff, implies_true, and_true]
    exact ⟨rfl, hscalar _ rfl, rfl, hscalar _ rfl, hscalar _ rfl⟩
  have hsmall : ¬(body 0x7FFFFFFFFFFFFFFF).Oversized :=
    Json.oversized_eq_nil_iff.mp (by decide +kernel)
  have hfirst : (body 0x8000000000000000).oversized.head? = some 0x8000000000000000 := by
    decide +kernel
  obtain ⟨halike, -, hrecord⟩ := stored_as_literal ext (body 0x7FFFFFFFFFFFFFFF) (halone _)
  obtain ⟨hfaults, hfails, -⟩ := stored_as_literal ext (body 0x8000000000000000) (halone _)
  have hfault := (hfaults.fault_iff _).mpr ⟨_, hfirst, rfl⟩
  have hlarge := hfaults.fails_iff.mp ⟨_, hfault⟩
  refine ⟨⟨rfl, hdocument.stored_eq hspelled⟩,
    ⟨halone _, hsmall, halike.stored_eq hsmall, ?_⟩, halone _, hlarge, hfault,
    hfails.mpr (.inr hlarge)⟩
  rw [hrecord _ rfl hsmall]
  rfl

end Documents

end OrderDesk
