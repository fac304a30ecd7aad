import Mathlib.Data.List.Forall2
import Mathlib.Tactic.Common
import OrderDesk.Proofs.Containers
import OrderDesk.Proofs.Requests

/-! # One spelling for every request

A request may be spelled with single values or lists of them, with sort keys as an object or a list,
with parts that are `null`, missing or given by position. Whatever spelling is read, what results is
in a normal form, and the spelling that the normal form is written in leads back to it.
-/

namespace OrderDesk

/-! ### Values read back -/

namespace Json.Draft

mutual

/-- Whatever is read as a value has distinct names in every object. -/
theorem wellFormed_of_value? (room : Room) (d : Draft) (v : Json) (h : value? room d = some v) :
    v.WellFormed := by
  match d with
  | .null | .boolean b | .number n | .string s =>
      rw [value?] at h
      obtain rfl := Option.some.inj h
      constructor
  | .unreadable | .broken => cases h
  | .array items closed =>
      unfold value? at h
      split at h
      · next inner _ =>
        obtain ⟨vs, hvs, rfl⟩ := Option.map_eq_some_iff.mp h
        exact .array (wellFormed_of_values? inner items vs hvs)
      · cases h
  | .object members closed =>
      unfold value? at h
      split at h
      · next inner _ =>
        obtain ⟨entries, hentries, rfl⟩ := Option.map_eq_some_iff.mp h
        have hall := wellFormed_of_memberValues? inner members entries hentries
        exact .object (Fields.nodup_names_ofEntries entries) fun entry hentry =>
          hall entry (Fields.ofEntries_subset entries hentry)
      · cases h

theorem wellFormed_of_values? (room : Room) (items : List Draft) (vs : List Json)
    (h : values? room items = some vs) : ∀ v ∈ vs, v.WellFormed := by
  match items with
  | [] =>
      obtain rfl := Option.some.inj h
      exact List.forall_mem_nil _
  | item :: items =>
      rw [values?] at h
      obtain ⟨w, hw, ws, hws, rfl⟩ : ∃ w, value? room item = some w ∧ ∃ ws,
          values? room items = some ws ∧ w :: ws = vs := by
        simpa [Option.bind_eq_bind, Option.bind_eq_some_iff] using h
      exact List.forall_mem_cons.mpr
        ⟨wellFormed_of_value? room item w hw, wellFormed_of_values? room items ws hws⟩

theorem wellFormed_of_memberValues? (room : Room) (members : List (Option String × Draft))
    (entries : List (String × Json)) (h : memberValues? room members = some entries) :
    ∀ entry ∈ entries, entry.2.WellFormed := by
  match members with
  | [] =>
      obtain rfl := Option.some.inj h
      exact List.forall_mem_nil _
  | member :: members =>
      rw [memberValues?] at h
      obtain ⟨entry, hentry, rest, hrest, rfl⟩ : ∃ entry, memberValue? room member = some entry ∧
          ∃ rest, memberValues? room members = some rest ∧ entry :: rest = entries := by
        simpa [Option.bind_eq_bind, Option.bind_eq_some_iff] using h
      exact List.forall_mem_cons.mpr ⟨wellFormed_of_memberValue? room member entry hentry,
        wellFormed_of_memberValues? room members rest hrest⟩

theorem wellFormed_of_memberValue? (room : Room) (member : Option String × Draft)
    (entry : String × Json) (h : memberValue? room member = some entry) :
    entry.2.WellFormed := by
  match member with
  | (none, _) => cases h
  | (some name, d) =>
      rw [memberValue?] at h
      obtain ⟨w, hw, rfl⟩ : ∃ w, value? room d = some w ∧ (name, w) = entry := by
        simpa [Option.bind_eq_bind, Option.bind_eq_some_iff] using h
      exact wellFormed_of_value? room d w hw

end

/-- The draft of a value has that value, if names are distinct. -/
theorem value?_ofValue {v : Json} (h : v.WellFormed) : (ofValue v).value? none = some v :=
  (value?_ofValue_iff h).mpr ⟨Room.admits_none _, rfl⟩

end Json.Draft

namespace Binding

open Json (Draft)

theorem wellFormed_of_value {room : Json.Room} {d : Draft} {v : Json}
    (h : value room d = .ok v) : v.WellFormed := by
  cases hread : d.value? room with
  | none => simp [value, hread] at h
  | some w =>
      simp only [value, hread] at h
      obtain rfl := Except.ok.inj h
      exact Draft.wellFormed_of_value? room d w hread

theorem of_orDefault {α : Type} [Inhabited α] {bind : Binder α} {P : α → Prop}
    (hdefault : P default) (hbind : ∀ room d a, bind room d = .ok a → P a) {room : Json.Room}
    {d : Draft} {a : α} (h : orDefault bind room d = .ok a) : P a := by
  cases d with
  | null =>
      obtain rfl := Except.ok.inj h
      exact hdefault
  | boolean b | number n | string s | array items closed | object members closed | unreadable
  | broken => exact hbind _ _ _ h

/-- What every bound value has, the members of a map have. -/
theorem of_mem_map {α : Type} {bind : Binder α} {room : Json.Room} {d : Draft} {fs : Fields α}
    {P : α → Prop} (hbind : ∀ room d a, bind room d = .ok a → P a) (h : map bind room d = .ok fs) :
    ∀ entry ∈ fs, P entry.2 := by
  cases d with
  | object members closed =>
      obtain ⟨inner, -, hrest⟩ := bind_eq_ok.mp h
      obtain ⟨entries, hentries, hclosing⟩ := bind_eq_ok.mp hrest
      obtain rfl := ok_of_closing hclosing
      intro entry hentry
      obtain ⟨⟨name, item⟩, -, hread⟩ := exists_mem_of_forall₂ (mapM_eq_ok_iff.mp hentries) entry
        (Fields.ofEntries_subset entries hentry)
      cases name with
      | none => cases hread
      | some name =>
          obtain ⟨a, ha, hpair⟩ := bind_eq_ok.mp hread
          obtain rfl := Except.ok.inj hpair
          exact hbind inner item a (ok_of_within ha)
  | null | boolean b | number n | string s | array items closed | unreadable | broken => cases h

theorem value_ofValue_iff {room : Json.Room} {v w : Json} (h : v.WellFormed) :
    value room (Draft.ofValue v) = .ok w ↔ room.Admits v.depth ∧ w = v := by
  rw [← Draft.value?_ofValue_iff h, value]
  cases (Draft.ofValue v).value? room <;> simp

/-- The members of a value are bound to that value where there is room for it. -/
theorem map_value_ofValue_iff {room : Json.Room} {members : List (String × Json)} {fs : Fields Json}
    (h : (Json.object members).WellFormed) :
    map value room (Draft.ofValue (.object members)) = .ok fs ↔
      room.Admits (Json.object members).depth ∧ fs = members := by
  simp only [Draft.ofValue, map, enter, Json.depth, Json.Room.admits_succ_iff]
  cases room.enter? with
  | none => simp
  | some inner =>
      have hentry : ∀ member ∈ members, ∀ entry : String × Json,
          (∃ v, within (.member member.1) (value inner (Draft.ofValue member.2)) = .ok v ∧
            (pure (member.1, v) : Bound (String × Json)) = .ok entry) ↔
              inner.Admits member.2.depth ∧ member = entry := by
        intro member hmember entry
        simp only [within_eq_ok, value_ofValue_iff (h.members member hmember), and_assoc,
          exists_and_left, exists_eq_left, pure, Except.pure, Except.ok.injEq]
      simp only [ok_bind, bind_eq_ok, mapM_eq_ok_iff, Draft.ofMembers_eq_map,
        List.forall₂_map_left_iff, forall₂_congr_mem hentry, List.forall₂_and_left,
        List.forall₂_eq_eq_eq, ← Json.Room.admits_depthMembers_iff]
      have hclosing : closing true (Fields.ofEntries members) = .ok fs ↔ fs = members := by
        rw [Fields.ofEntries_of_nodup h.nodup, closing, if_pos rfl, Except.ok.injEq, eq_comm]
      simp only [and_assoc, exists_and_left, exists_eq_left', hclosing, Option.some.injEq]

theorem map_value_ofValue {members : List (String × Json)}
    (hnodup : (Fields.names members).Nodup) (h : ∀ member ∈ members, member.2.WellFormed) :
    map value none (Draft.ofValue (.object members)) = .ok members :=
  (map_value_ofValue_iff (.object hnodup h)).mpr ⟨Json.Room.admits_none _, rfl⟩

end Binding

namespace Filter

/-! ### The normal form -/

/-- A request in which no section names a field twice, no exact filter lists equal values, and the
names in every object are distinct. -/
structure Request.Canonical (r : Request) : Prop extends r.WellFormed where
  values_unequal : ∀ entry ∈ r.exact, Json.Unequal entry.2
  values_wellFormed : ∀ entry ∈ r.exact, ∀ v ∈ entry.2, v.WellFormed
  matching_values_wellFormed : ∀ entry ∈ r.matching, entry.2.WellFormed

theorem wellFormed_of_mem_filterValues {v : Json} (hv : v.WellFormed) :
    Json.Unequal (filterValues v) ∧ ∀ w ∈ filterValues v, w.WellFormed := by
  have hsingle : Json.Unequal [v] ∧ ∀ w ∈ [v], w.WellFormed :=
    ⟨List.pairwise_singleton _ _, List.forall_mem_singleton.mpr hv⟩
  cases hv with
  | array h =>
      rw [filterValues, Json.distinct_eq_firsts h]
      exact ⟨Json.unequal_firsts h, fun w hw => h w (Json.firsts_subset [] _ hw)⟩
  | null | boolean b | number n | string s | object hnodup h => exact hsingle

theorem filterValues_array {values : List Json} (hunequal : Json.Unequal values)
    (h : ∀ v ∈ values, v.WellFormed) : filterValues (.array values) = values := by
  rw [filterValues, Json.distinct_eq_firsts h]
  exact Json.firsts_of_unequal hunequal fun _ _ => rfl

/-- Exact filters are read into values that are unequal and well-formed. -/
theorem values_of_exactFilters {room : Json.Room} {d : Json.Draft} {fs : Fields (List Json)}
    (h : exactFilters room d = .ok fs) :
    ∀ entry ∈ fs, Json.Unequal entry.2 ∧ ∀ v ∈ entry.2, v.WellFormed := by
  refine Binding.of_orDefault
    (P := fun fs => ∀ entry ∈ fs, Json.Unequal entry.2 ∧ ∀ v ∈ entry.2, v.WellFormed)
    (List.forall_mem_nil _) (fun room d fs hfs => ?_) h
  cases hmap : Binding.map Binding.value room d with
  | error flaw => rw [hmap] at hfs; cases hfs
  | ok members =>
      rw [hmap] at hfs
      obtain rfl := Except.ok.inj hfs
      have hmembers := Binding.of_mem_map (fun _ _ _ => Binding.wellFormed_of_value) hmap
      rw [List.forall_mem_map]
      exact fun member hmember => wellFormed_of_mem_filterValues (hmembers member hmember)

theorem Request.Canonical.empty : Request.empty.Canonical where
  toWellFormed := .empty
  values_unequal := List.forall_mem_nil _
  values_wellFormed := List.forall_mem_nil _
  matching_values_wellFormed := List.forall_mem_nil _

/-- Whatever is read as a request is in normal form. -/
theorem Request.canonical_of_bind {room : Json.Room} {d : Json.Draft} {r : Request}
    (h : Request.bind room d = .ok r) : r.Canonical := by
  refine Binding.record_keeps (P := Request.Canonical) (fun part hpart => ?_) .empty h
  simp only [requestParts, List.mem_cons, List.not_mem_nil, or_false] at hpart
  rcases hpart with rfl | rfl | rfl | rfl
  · refine Binding.Part.keeps_of fun room d exact hexact r hr => ?_
    have hvalues := values_of_exactFilters hexact
    exact { hr with
      exact_nodup := exactFilters_nodup hexact
      values_unequal := fun entry hentry => (hvalues entry hentry).1
      values_wellFormed := fun entry hentry => (hvalues entry hentry).2 }
  · refine Binding.Part.keeps_of fun room d matching hmatching r hr => ?_
    have hvalues : ∀ entry ∈ matching, entry.2.WellFormed :=
      Binding.of_orDefault (List.forall_mem_nil _)
        (fun _ _ _ => Binding.of_mem_map fun _ _ _ => Binding.wellFormed_of_value) hmatching
    exact { hr with
      matching_nodup := orDefault_nodup (fun _ _ _ => map_nodup) hmatching
      matching_values_wellFormed := hvalues }
  · exact Binding.Part.keeps_of fun room d fields _ r hr => { hr with }
  · exact Binding.Part.keeps_of fun room d sort hsort r hr =>
      { hr with sort_nodup := sortKeys_nodup hsort }

/-! ### The written form -/

theorem distinctKeys_eq_ok {seen : List String} {keys : List SortKey}
    (hnodup : (keys.map (·.field)).Nodup) (hnew : ∀ key ∈ keys, key.field ∉ seen) :
    distinctKeys seen keys = .ok () := by
  induction keys generalizing seen with
  | nil => rfl
  | cons key keys ih =>
      obtain ⟨hfirst, hnodup⟩ := List.nodup_cons.mp hnodup
      obtain ⟨hkey, hkeys⟩ := List.forall_mem_cons.mp hnew
      rw [distinctKeys, if_neg hkey]
      refine ih hnodup fun other hother hmem => ?_
      rcases List.mem_cons.mp hmem with heq | hmem
      · exact hfirst (List.mem_map.mpr ⟨other, hother, heq⟩)
      · exact hkeys other hother hmem

/-- A sort key as an object with both of its members. -/
def SortKey.toJson (key : SortKey) : Json :=
  .object [("field", .string key.field), ("direction", .string key.direction.keyword)]

theorem SortKey.wellFormed_toJson (key : SortKey) : key.toJson.WellFormed := by
  refine .object (by simp [Fields.names]) ?_
  simp only [List.forall_mem_cons]
  exact ⟨.string _, .string _, List.forall_mem_nil _⟩

theorem Direction.ofJson_keyword (direction : Direction) :
    Direction.ofJson (.string direction.keyword) = .ok direction := by
  cases direction <;> simp [Direction.ofJson, Direction.keyword, ← String.toList_inj]

theorem sortKey?_toJson (key : SortKey) : sortKey? (Json.Draft.ofValue key.toJson) = some key := by
  simp [SortKey.toJson, Json.Draft.ofValue, Json.Draft.ofMembers, Json.Draft.ofMember, sortKey?,
    Json.Draft.soleMember?, sortKey?.key?, Json.Draft.value?, Direction.ofJson_keyword]

theorem sortKeys_toJson {keys : List SortKey} (hnodup : (keys.map (·.field)).Nodup) :
    sortKeys none (Json.Draft.ofValue (.array (keys.map SortKey.toJson))) = .ok keys := by
  have hvalue := Json.Draft.value?_ofValue (v := .array (keys.map SortKey.toJson))
    (.array (List.forall_mem_map.mpr fun key _ => key.wellFormed_toJson))
  have hkeys : (Json.Draft.ofValues (keys.map SortKey.toJson)).mapM sortKey? = some keys := by
    rw [Json.Draft.ofValues_eq_map, List.map_map, List.mapM_map]
    clear hnodup hvalue
    induction keys with
    | nil => rfl
    | cons key keys ih =>
        rw [List.mapM_cons, ih, Function.comp_apply, Function.comp_apply, sortKey?_toJson]
        rfl
  have hdistinct : distinctKeys [] keys = .ok () :=
    distinctKeys_eq_ok hnodup fun _ _ => List.not_mem_nil
  rw [Json.Draft.ofValue] at hvalue ⊢
  simp only [sortKeys, hvalue, hkeys, ok_bind, hdistinct]
  rfl

theorem exactFilters_written {r : Request} (hr : r.Canonical) :
    exactFilters none (Json.Draft.ofValue
      (.object (r.exact.map fun entry => (entry.1, .array entry.2)))) = .ok r.exact := by
  have hmap : Binding.map Binding.value none (Json.Draft.ofValue
      (.object (r.exact.map fun entry => (entry.1, .array entry.2)))) =
        .ok (r.exact.map fun entry => (entry.1, .array entry.2)) := by
    apply Binding.map_value_ofValue
    · rw [Fields.names, List.map_map]
      exact hr.exact_nodup
    · exact List.forall_mem_map.mpr fun entry hentry => .array (hr.values_wellFormed entry hentry)
  have hexact : exactFilters none (Json.Draft.ofValue
      (.object (r.exact.map fun entry => (entry.1, .array entry.2)))) =
        (Binding.map Binding.value none (Json.Draft.ofValue
          (.object (r.exact.map fun entry => (entry.1, .array entry.2))))).map fun members =>
            members.map fun entry => (entry.1, filterValues entry.2) := rfl
  have hvalues : ∀ entry ∈ r.exact, (entry.1, filterValues (.array entry.2)) = entry :=
    fun entry hentry => Prod.ext rfl
      (filterValues_array (hr.values_unequal entry hentry) (hr.values_wellFormed entry hentry))
  rw [hexact, hmap, Except.map, List.map_map]
  exact congrArg Except.ok ((List.map_congr_left hvalues).trans (List.map_id _))

/-- A request in normal form is read back from what it is written as. -/
theorem Request.bind_toJson {r : Request} (hr : r.Canonical) :
    Binding.ofValue Request.bind r.toJson = .ok r := by
  have hexact : exactFilters none (Json.Draft.ofValue
      (.object (r.exact.map fun entry => (entry.1, .array entry.2)))) = .ok r.exact :=
    exactFilters_written hr
  have hmatching : Binding.orDefault (Binding.map Binding.value) none
      (Json.Draft.ofValue (.object r.matching)) = .ok r.matching :=
    Binding.map_value_ofValue hr.matching_nodup hr.matching_values_wellFormed
  have hfields : Binding.orDefault (Binding.list Binding.string) none
      (Json.Draft.ofValue (.array (r.fields.map .string))) = .ok r.fields :=
    Binding.list_ofValues fun _ _ => rfl
  have hsort := sortKeys_toJson hr.sort_nodup
  let members : List (String × Json) :=
    [("exact_filters", .object (r.exact.map fun entry => (entry.1, .array entry.2))),
      ("match", .object r.matching),
      ("fields", .array (r.fields.map .string)),
      ("sort", .array (r.sort.map SortKey.toJson))]
  have hbind : Binding.ofValue Request.bind r.toJson =
      Binding.bindMembers requestParts none [] .empty (Json.Draft.ofMembers members) >>=
        Binding.closing true := rfl
  have hmembers : Binding.bindMembers requestParts none [] .empty
      (Json.Draft.ofMembers members) = .ok r := by
    simp [members, Json.Draft.ofMembers, Json.Draft.ofMember, Binding.bindMembers, requestParts,
      Binding.Part.answersTo, Binding.Part.of, hexact, hmatching, hfields, hsort, Except.map,
      Binding.within]
  rw [hbind, hmembers]
  rfl

/-! ### The values that are given -/

/-- What an exact filter lists, or the single value that it gives. -/
def listed : Json → List Json
  | .array items => items
  | v => [v]

/-- The exact filters of a request, under one of their names or in their position. -/
def exactSection? : Json → Option Json
  | .object members =>
    (members.find? fun member => member.1 = "exact_filters" || member.1 = "exactFilters").map (·.2)
  | .array items => items.head?
  | _ => none

/-- The values that are given for each field, as they stand in a request. -/
def valuesGiven (v : Json) : Fields (List Json) :=
  match exactSection? v with
  | some (.object members) => members.map fun member => (member.1, listed member.2)
  | _ => []

theorem filterValues_eq {v : Json} (hv : v.WellFormed) :
    filterValues v = Json.firsts [] (listed v) := by
  cases hv with
  | array h => exact Json.distinct_eq_firsts h
  | null | boolean b | number n | string s | object hnodup h => rfl

theorem exactSection_wellFormed {v w : Json} (hv : v.WellFormed) (h : exactSection? v = some w) :
    w.WellFormed := by
  cases hv with
  | array hitems => exact hitems w (List.mem_of_head? h)
  | object _ hmembers =>
      obtain ⟨member, hmember, rfl⟩ := Option.map_eq_some_iff.mp h
      exact hmembers member (List.mem_of_find?_eq_some hmember)
  | null | boolean b | number n | string s => cases h

/-- The part that is bound to the exact filters. -/
def exactPart : Binding.Part Request :=
  .of "exact_filters" exactFilters (fun exact r => { r with exact }) (some "exactFilters")

theorem exactPart_answersTo (name : String) :
    exactPart.answersTo name = (name = "exact_filters" || name = "exactFilters") := by
  simp [Binding.Part.answersTo, exactPart, Binding.Part.of, eq_comm]

/-- No other part writes exact filters. -/
theorem spares_exact : Binding.Spares requestParts.tail Request.exact exactPart.name := by
  intro part hpart _ room d r r' h
  simp only [requestParts, List.tail_cons, List.mem_cons, List.not_mem_nil, or_false] at hpart
  rcases hpart with rfl | rfl | rfl <;> exact Binding.Part.of_spares h fun _ _ => rfl

theorem name_ne_exactPart : ∀ part ∈ requestParts.tail, part.name ≠ exactPart.name := by
  simp [requestParts, exactPart, Binding.Part.of]

theorem exactFilters_of_fills {w? : Option Json} {exact : Fields (List Json)}
    (h : exactPart.Fills Request.exact none [] (w?.map Json.Draft.ofValue) exact) :
    (∃ w, w? = some w ∧ exactFilters none (Json.Draft.ofValue w) = .ok exact) ∨
      w? = none ∧ exact = [] := by
  cases w? with
  | none => exact .inr ⟨rfl, h⟩
  | some w =>
      refine .inl ⟨w, rfl, ?_⟩
      obtain ⟨before, after, hbind, rfl⟩ := h
      simp only [exactPart, Binding.Part.of] at hbind
      cases hread : exactFilters none (Json.Draft.ofValue w) with
      | error flaw => rw [hread] at hbind; cases hbind
      | ok exact =>
          rw [hread] at hbind
          obtain rfl := Except.ok.inj hbind
          rfl

/-- The exact filters of a request are those that its section binds to. -/
theorem exact_of_bind {v : Json} {r : Request} (h : Binding.ofValue Request.bind v = .ok r) :
    (∃ w, exactSection? v = some w ∧ exactFilters none (Json.Draft.ofValue w) = .ok r.exact) ∨
      exactSection? v = none ∧ r.exact = [] := by
  apply exactFilters_of_fills
  cases v with
  | object members =>
      obtain ⟨bound, hbound, hclosing⟩ := bind_eq_ok.mp (show
        Binding.bindMembers requestParts none [] .empty (Json.Draft.ofMembers members) >>=
          Binding.closing true = .ok r from h)
      obtain rfl := Binding.ok_of_closing hclosing
      have hfills := Binding.bindMembers_head exactPart spares_exact name_ne_exactPart
        List.not_mem_nil hbound
      rw [Json.Draft.ofMembers_eq_map, List.find?_map, Option.map_map] at hfills
      simp only [Function.comp_def, Option.any_some, exactPart_answersTo] at hfills
      rw [exactSection?, Option.map_map]
      exact hfills
  | array items =>
      obtain ⟨⟨bound, rest⟩, hbound, hrest⟩ := bind_eq_ok.mp (show
        (Binding.bindItems none 0 .empty requestParts (Json.Draft.ofValues items) >>=
          fun (r, rest) =>
            if rest.isEmpty then Binding.closing true r
            else if Option.isSome (none : Json.Room) then .error .malformed
            else Binding.fail (.tooLong (Json.Draft.ofValues items).length)) = .ok r from h)
      simp only at hrest
      split at hrest
      · obtain rfl := Binding.ok_of_closing hrest
        have hfills := Binding.bindItems_head exactPart spares_exact name_ne_exactPart hbound
        rw [Json.Draft.ofValues_eq_map, List.head?_map] at hfills
        exact hfills
      · cases hrest
  | null | boolean b | number n | string s => cases h

theorem exactFilters_ofValue {w : Json} {fs : Fields (List Json)} (hw : w.WellFormed)
    (h : exactFilters none (Json.Draft.ofValue w) = .ok fs) :
    fs = match w with
      | .object members => members.map fun member => (member.1, filterValues member.2)
      | _ => [] := by
  cases hw with
  | @object members hnodup hmembers =>
      have hexact : exactFilters none (Json.Draft.ofValue (.object members)) =
          (Binding.map Binding.value none (Json.Draft.ofValue (.object members))).map
            fun members => members.map fun entry => (entry.1, filterValues entry.2) := rfl
      rw [hexact, Binding.map_value_ofValue hnodup hmembers] at h
      exact (Except.ok.inj h).symm
  | null =>
      obtain rfl := Except.ok.inj h
      rfl
  | boolean b | number n | string s | array hitems => cases h

/-- An exact filter has the values given for its field, without those that equal an earlier one. -/
theorem exact_eq_firsts {v : Json} {r : Request} (hv : v.WellFormed)
    (h : Binding.ofValue Request.bind v = .ok r) :
    r.exact = (valuesGiven v).map fun entry => (entry.1, Json.firsts [] entry.2) := by
  rcases exact_of_bind h with ⟨w, hsection, hexact⟩ | ⟨hsection, hexact⟩
  · have hw := exactSection_wellFormed hv hsection
    rw [valuesGiven, hsection, exactFilters_ofValue hw hexact]
    cases hw with
    | object _ hmembers =>
        simp only [List.map_map]
        exact List.map_congr_left fun member hmember =>
          Prod.ext rfl (filterValues_eq (hmembers member hmember))
    | null | boolean b | number n | string s | array hitems => rfl
  · rw [valuesGiven, hsection, hexact]
    rfl

/-- Whatever value is read as a request, no section of the request names a field twice, each exact
filter has the values given for its field in the order in which unequal ones first occur, and the
JSON form of the request is read as the same request. -/
theorem Request.bind_normalizes {v : Json} {r : Request}
    (h : Binding.ofValue Request.bind v = .ok r) :
    r.Canonical ∧
      (v.WellFormed →
        r.exact = (valuesGiven v).map fun entry => (entry.1, Json.firsts [] entry.2)) ∧
      Binding.ofValue Request.bind r.toJson = .ok r :=
  ⟨canonical_of_bind h, fun hv => exact_eq_firsts hv h, bind_toJson (canonical_of_bind h)⟩

/-- A single value, repeated ones, a part that is `null`, and sort keys as an object. -/
theorem Request.bind_normalizes_spelling :
    let v : Json := .object [
      ("exactFilters", .object [
        ("status", .array [.string "NEW", .string "PAID", .string "NEW"]), ("total", .ofNat 7)]),
      ("match", .null),
      ("sort", .object [("total", .string "DESC"), ("id", .ofNat 1)])]
    let r : Request :=
      { exact := [("status", [.string "NEW", .string "PAID"]), ("total", [.ofNat 7])]
        sort := [⟨"total", .descending⟩, ⟨"id", .ascending⟩] }
    Binding.ofValue Request.bind v = .ok r ∧ r.Canonical ∧ v.WellFormed ∧
      r.exact = (valuesGiven v).map (fun entry => (entry.1, Json.firsts [] entry.2)) ∧
      Binding.ofValue Request.bind r.toJson = .ok r := by
  intro v r
  have hword : Direction.ofJson (.string "DESC") = .ok .descending := by
    simp [Direction.ofJson, ← String.toList_inj]
  have hnumber : Direction.ofJson (.number (.natural 1)) = .ok .ascending := rfl
  have hbind : Binding.ofValue Request.bind v = .ok r := by
    simp [v, r, hword, hnumber, Binding.ofValue, Request.bind, Binding.record, Json.Draft.ofValue,
      Json.Draft.ofValues, Json.Draft.ofMembers, Json.Draft.ofMember, Binding.enter,
      Json.Room.enter?, Binding.bindMembers, requestParts, Binding.Part.answersTo, Binding.Part.of,
      Binding.within, exactFilters, Binding.orDefault, Binding.map, Binding.value,
      Json.Draft.value?, Json.Draft.values?, Json.Draft.memberValues?, Json.Draft.memberValue?,
      sortKeys, keyedSort, distinctKeys, filterValues, Json.distinct, Json.isIn, Json.same,
      Fields.ofEntries, Fields.set, Except.map, Binding.closing, Json.ofNat]
    exact ⟨rfl, rfl⟩
  have hv : v.WellFormed := Json.Draft.wellFormed_of_value? none (Json.Draft.ofValue v) v rfl
  obtain ⟨hcanonical, hfirsts, hback⟩ := Request.bind_normalizes hbind
  exact ⟨hbind, hcanonical, hv, hfirsts hv, hback⟩

end Filter

end OrderDesk
