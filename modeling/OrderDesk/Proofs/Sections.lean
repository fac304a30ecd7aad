import Mathlib.Data.List.Forall2
import Mathlib.Tactic.Common
import OrderDesk.Filter.Validity
import OrderDesk.Proofs.Members
import OrderDesk.Proofs.Spellings

/-! # Sections of a request

Each section of a request is bound to a part of its own, under one name or two, and leaves the other
sections alone. What a section binds to is told by its value: keys for the members or the items of a
sort section, and the values of each field for exact filters, as long as there is room for all of
its containers.
-/

namespace OrderDesk.Filter

open Json (Draft Room)

/-! ### Names and parts -/

/-- The section that a member with a name belongs to. -/
def Section.ofName? (name : String) : Option Section :=
  if name = "exact_filters" ∨ name = "exactFilters" then some .exact
  else if name = "match" then some .matching
  else if name = "fields" then some .fields
  else if name = "sort" then some .sort
  else none

/-- The part of a request that a section is bound to. -/
def Section.toPart : Section → Binding.Part Request
  | exact => exactPart
  | matching => .of "match" (Binding.orDefault (Binding.map Binding.value))
      (fun matching r => { r with matching })
  | fields => .of "fields" (Binding.orDefault (Binding.list Binding.string))
      (fun fields r => { r with fields })
  | sort => .of "sort" sortKeys (fun sort r => { r with sort })

theorem Section.answersTo_toPart (part : Section) (name : String) :
    part.toPart.answersTo name = decide (ofName? name = some part) := by
  unfold ofName?
  cases part <;>
    simp only [Section.toPart, exactPart, Binding.Part.of, Binding.Part.answersTo] <;> grind

theorem requestParts_eq :
    requestParts = [Section.exact, .matching, .fields, .sort].map Section.toPart := rfl

theorem find?_requestParts (name : String) :
    requestParts.find? (·.answersTo name) = (Section.ofName? name).map Section.toPart := by
  rw [requestParts_eq, List.find?_map]
  congr 1
  simp only [Function.comp_def, Section.answersTo_toPart]
  cases Section.ofName? name with
  | none => rfl
  | some part => cases part <;> rfl

theorem find?_of_ofName? {name : String} {part : Section} (h : Section.ofName? name = some part) :
    requestParts.find? (·.answersTo name) = some part.toPart := by
  rw [find?_requestParts, h, Option.map_some]

theorem Section.name_toPart (part : Section) : part.toPart.name = part.name := by cases part <;> rfl

theorem Section.name_inj {part other : Section} (h : part.name = other.name) : part = other := by
  cases part <;> cases other <;> first | rfl | exact absurd h (by decide)

/-- Only exact filters have two names. -/
theorem Section.ofName?_inj {name other : String} {part : Section} (h : ofName? name = some part)
    (hother : ofName? other = some part) :
    name = other ∨ name = "exact_filters" ∧ other = "exactFilters" ∨
      name = "exactFilters" ∧ other = "exact_filters" := by
  unfold ofName? at h hother
  grind

/-- Members of other sections have other parts. -/
theorem avoid_part {members : Fields Json} {part : Section}
    (h : ∀ member ∈ members, Section.ofName? member.1 ≠ some part) :
    Binding.Avoid requestParts part.toPart.name (Draft.ofMembers members) := by
  rw [Draft.ofMembers_eq_map]
  refine List.forall_mem_map.mpr fun member hmember name hname found hfound heq => ?_
  obtain rfl : member.1 = name := Option.some.inj hname
  rw [find?_requestParts, Option.map_eq_some_iff] at hfound
  obtain ⟨other, hother, rfl⟩ := hfound
  rw [Section.name_toPart, Section.name_toPart] at heq
  exact h member hmember (hother.trans (congrArg some (Section.name_inj heq)))

/-! ### Blank sections -/

/-- A request without one of its sections. -/
def Section.blank : Section → Request → Request
  | exact, r => { r with exact := [] }
  | matching, r => { r with matching := [] }
  | fields, r => { r with fields := [] }
  | sort, r => { r with sort := [] }

theorem Section.bind_null (part : Section) (room : Room) (r : Request) :
    part.toPart.bind room .null r = .ok (part.blank r) := by
  cases part <;> rfl

/-- A section that is blank may be made blank. -/
theorem Section.blank_eq {part : Section} {r : Request} (h : Request.Agree part r .empty) :
    part.blank r = r := by
  obtain ⟨exact, matching, fields, sort⟩ := r
  cases part <;> (cases h; rfl)

/-- Binding a section leaves the others alone. -/
theorem Section.agree_bind {part other : Section} (hne : other ≠ part) {room : Room} {d : Draft}
    {r r' : Request} (h : other.toPart.bind room d r = .ok r') : Request.Agree part r' r := by
  cases other <;>
    (obtain ⟨_, -, rfl⟩ := Binding.Part.of_bind_eq_ok.mp h
     cases part <;> first | rfl | exact absurd rfl hne)

/-! ### Sort keys -/

/-- A key for a member of a sort object, if its direction is one. -/
def KeyOf (member : String × Json) (key : SortKey) : Prop :=
  key.field = member.1 ∧ Direction.ofJson member.2 = .ok key.direction

theorem depth_of_direction {v : Json} {direction : Direction}
    (h : Direction.ofJson v = .ok direction) : v.depth = 0 := by
  cases v with
  | number n => rfl
  | string s => rfl
  | null | boolean b | array items | object members => cases h

theorem keyedSort_eq_ok {members : Fields Json} {keys : List SortKey} :
    keyedSort members = .ok keys ↔ List.Forall₂ KeyOf members keys := by
  rw [keyedSort, mapM_eq_ok_iff]
  refine forall₂_congr_mem fun member _ key => ?_
  obtain ⟨field, direction⟩ := key
  cases hdirection : Direction.ofJson member.2 with
  | error fault => simp [KeyOf, hdirection, Binding.fail]
  | ok found => simp [KeyOf, hdirection, eq_comm]

/-- Sort keys as an object are read one by one, if there is room for it. -/
theorem sortKeys_object_eq_ok {members : Fields Json} (h : (Json.object members).WellFormed)
    {room : Room} {keys : List SortKey} :
    sortKeys room (Draft.ofValue (.object members)) = .ok keys ↔
      room.Admits (Json.object members).depth ∧ List.Forall₂ KeyOf members keys ∧
        distinctKeys [] keys = .ok () := by
  rw [← Draft.exists_value?_iff h]
  cases hvalue : (Draft.ofValue (.object members)).value? room with
  | none =>
      rw [Draft.ofValue] at hvalue ⊢
      simp [sortKeys, hvalue]
  | some v =>
      obtain ⟨-, rfl⟩ := (Draft.value?_ofValue_iff h).mp hvalue
      rw [Draft.ofValue] at hvalue ⊢
      simp only [sortKeys, hvalue, distinct_eq_ok, keyedSort_eq_ok, Option.some.injEq,
        exists_eq', true_and]

/-- Sort keys in a list are read one by one, if the list is a value. -/
theorem sortKeys_array_eq_ok {items : List Json} {room : Room} {keys : List SortKey} :
    sortKeys room (Draft.ofValue (.array items)) = .ok keys ↔
      (∃ v, (Draft.ofValue (.array items)).value? room = some v) ∧
        List.Forall₂ (fun item key => sortKey? (Draft.ofValue item) = some key) items keys ∧
        distinctKeys [] keys = .ok () := by
  have hkeys : (Draft.ofValues items).mapM sortKey? = some keys ↔
      List.Forall₂ (fun item key => sortKey? (Draft.ofValue item) = some key) items keys := by
    rw [Draft.ofValues_eq_map, mapM_eq_some_iff, List.forall₂_map_left_iff]
  rw [← hkeys, Draft.ofValue]
  simp only [sortKeys]
  cases (Draft.array (Draft.ofValues items) true).value? room with
  | none => simp
  | some v =>
      cases (Draft.ofValues items).mapM sortKey? with
      | none => simp [Binding.fail]
      | some found =>
          simp only [distinct_eq_ok, Except.ok.injEq, Option.some.injEq, exists_eq', true_and]

/-- A listed sort key names a field, as a member or in first position. -/
inductive NamesField (field : String) : Json → Prop
  | member {members : Fields Json} (h : ("field", .string field) ∈ members) :
      NamesField field (.object members)
  | first {items : List Json} : NamesField field (.array (.string field :: items))

theorem field_of_key? {field : String} {direction : Draft} {key : SortKey}
    (h : sortKey?.key? (.string field) direction = some key) : key.field = field := by
  simp only [sortKey?.key?] at h
  split at h
  · obtain rfl := Option.some.inj h
    rfl
  · cases h

theorem eq_of_soleMember? {name : String} {members : List (Option String × Draft)} {d e : Draft}
    (h : Draft.soleMember? name members = some d) (hmember : (some name, e) ∈ members) : d = e := by
  have hnamed : (some name, e) ∈ members.filter (·.1 = some name) :=
    List.mem_filter.mpr ⟨hmember, decide_eq_true rfl⟩
  unfold Draft.soleMember? at h
  split at h
  · next hfound =>
    rw [hfound] at hnamed
    obtain ⟨-, rfl⟩ := Prod.mk.inj (List.mem_singleton.mp hnamed)
    exact (Option.some.inj h).symm
  · cases h

theorem field_of_namesField {item : Json} {key : SortKey} {field : String}
    (hkey : sortKey? (Draft.ofValue item) = some key) (h : NamesField field item) :
    key.field = field := by
  cases h with
  | @member members hmember =>
      simp only [Draft.ofValue, sortKey?, Option.bind_eq_bind, Option.bind_eq_some_iff] at hkey
      obtain ⟨d, hsole, direction, -, hkey⟩ := hkey
      have hnamed : (some "field", Draft.string field) ∈ Draft.ofMembers members := by
        rw [Draft.ofMembers_eq_map]
        exact List.mem_map_of_mem hmember
      obtain rfl := eq_of_soleMember? hsole hnamed
      exact field_of_key? hkey
  | @first items =>
      cases items with
      | nil => cases hkey
      | cons direction rest =>
          cases rest with
          | nil => exact field_of_key? hkey
          | cons _ _ => cases hkey

/-- Keys on distinct fields come from items of which no two name one field. -/
theorem pairwise_of_keys {items : List Json} {keys : List SortKey}
    (h : List.Forall₂ (fun item key => sortKey? (Draft.ofValue item) = some key) items keys)
    (hnodup : (keys.map (·.field)).Nodup) :
    items.Pairwise fun a b => ∀ field, NamesField field a → ¬NamesField field b := by
  induction h with
  | nil => exact .nil
  | @cons item key items keys hitem hitems ih =>
      obtain ⟨hnew, hnodup⟩ := List.nodup_cons.mp hnodup
      refine .cons (fun other hother field hfirst hagain => hnew ?_) (ih hnodup)
      obtain ⟨otherKey, hmem, hread⟩ := exists_mem_of_forall₂ hitems.flip other hother
      have hsame : otherKey.field = key.field :=
        (field_of_namesField hread hagain).trans (field_of_namesField hitem hfirst).symm
      exact List.mem_map.mpr ⟨otherKey, hmem, hsame⟩

/-! ### Exact filters -/

theorem exactFilters_ofValue_iff {members : Fields Json} (h : (Json.object members).WellFormed)
    {room : Room} {fs : Fields (List Json)} :
    exactFilters room (Draft.ofValue (.object members)) = .ok fs ↔
      room.Admits (Json.object members).depth ∧
        members.map (fun member => (member.1, filterValues member.2)) = fs := by
  have hexact : exactFilters room (Draft.ofValue (.object members)) =
      (Binding.map Binding.value room (Draft.ofValue (.object members))).map
        fun members => members.map fun entry => (entry.1, filterValues entry.2) := rfl
  have hmap := @Binding.map_value_ofValue_iff room members
  rw [hexact]
  cases hread : Binding.map Binding.value room (Draft.ofValue (.object members)) with
  | error flaw =>
      have hdeep : ¬room.Admits (Json.object members).depth := by
        intro hadmits
        rw [(hmap h).mpr ⟨hadmits, rfl⟩] at hread
        cases hread
      simp [Except.map, hdeep]
  | ok found =>
      obtain ⟨hadmits, rfl⟩ := (hmap h).mp hread
      simp [Except.map, hadmits]

theorem filterValues_single {v : Json} (h : ∀ items, v ≠ .array items) :
    filterValues v = filterValues (.array [v]) := by
  cases v with
  | array items => exact absurd rfl (h items)
  | null | boolean b | number n | string s | object members => rfl

/-! ### Whole requests -/

theorem bind_object_eq_ok {members : Fields Json} {room : Room} {r : Request} :
    Request.bind room (Draft.ofValue (.object members)) = .ok r ↔
      ∃ inner, room.enter? = some inner ∧
        Binding.bindMembers requestParts inner [] .empty (Draft.ofMembers members) = .ok r := by
  have hbind : Request.bind room (Draft.ofValue (.object members)) =
      Binding.enter room >>= fun inner =>
        Binding.bindMembers requestParts inner [] .empty (Draft.ofMembers members) >>=
          Binding.closing true := rfl
  rw [hbind, Binding.enter]
  cases room.enter? with
  | none => simp
  | some inner =>
      simp only [ok_bind, bind_eq_ok, Binding.closing, if_true, Except.ok.injEq,
        Option.some.injEq, exists_eq_left', exists_eq_right]

/-- A request of one section is what the section makes of the empty one. -/
theorem bind_single_eq_ok {name : String} {part : Section} {v : Json} {room : Room} {r : Request}
    (h : Section.ofName? name = some part) :
    Request.bind room (Draft.ofValue (.object [(name, v)])) = .ok r ↔
      ∃ inner, room.enter? = some inner ∧
        part.toPart.bind inner (Draft.ofValue v) .empty = .ok r := by
  rw [bind_object_eq_ok]
  simp only [Draft.ofMembers, Draft.ofMember, Binding.bindMembers_cons_of_find (find?_of_ofName? h)]
  refine exists_congr fun inner => and_congr_right fun _ => ?_
  constructor
  · rintro ⟨-, next, hnext, hrest⟩
    exact hnext.trans hrest
  · exact fun hbind => ⟨List.not_mem_nil, r, hbind, rfl⟩

/-- A sort list that names a field twice is never bound. -/
theorem bind_ne_ok_of_twice {members : Fields Json} {items : List Json}
    (hsort : ("sort", .array items) ∈ members) {a b : Json} (hitems : [a, b].Sublist items)
    {field : String} (ha : NamesField field a) (hb : NamesField field b) (room : Room)
    (r : Request) : Request.bind room (Draft.ofValue (.object members)) ≠ .ok r := by
  intro hbind
  obtain ⟨inner, -, hmembers⟩ := bind_object_eq_ok.mp hbind
  have hfind : requestParts.find? (·.answersTo "sort") = some Section.sort.toPart := rfl
  have hmember : (some "sort", Draft.ofValue (.array items)) ∈ Draft.ofMembers members := by
    rw [Draft.ofMembers_eq_map]
    exact List.mem_map_of_mem hsort
  obtain ⟨before, after, hpart⟩ := Binding.bind_of_mem_bindMembers hfind hmember hmembers
  obtain ⟨keys, hkeys, -⟩ := Binding.Part.of_bind_eq_ok.mp hpart
  have hread := (sortKeys_array_eq_ok.mp hkeys).2.1
  have hpairs := pairwise_of_keys hread (sortKeys_nodup hkeys)
  exact List.pairwise_iff_forall_sublist.mp hpairs hitems field ha hb

end OrderDesk.Filter
