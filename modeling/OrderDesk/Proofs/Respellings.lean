import Mathlib.Data.List.Forall2
import Mathlib.Tactic.Common
import OrderDesk.Proofs.Sections
import OrderDesk.Proofs.Texts

/-! # Spellings of one request

An object that spells a request may be respelled: sort keys as an object or as a list, a single
value of an exact filter or a list of it, more copies of a listed value, another name, and nothing
in place of an empty section. What is read stays the same, also from a text, as long as the text
does not get too deep to be read at all.
-/

namespace OrderDesk.Filter

open Json (Draft Room)

/-! ### Respelled sections -/

/-- A section that says nothing. -/
inductive Section.Empty : Section → Json → Prop
  | object {part : Section} (h : part ≠ .fields) : Empty part (.object [])
  | array {part : Section} (h : part = .fields ∨ part = .sort) : Empty part (.array [])

theorem Section.Empty.bind_eq {part : Section} {v : Json} (h : Empty part v) {room : Room}
    (hroom : room.Admits 1) (r : Request) :
    part.toPart.bind room (Draft.ofValue v) r = .ok (part.blank r) := by
  cases h with
  | object hpart =>
      have hnone : (Json.object []).WellFormed := .object List.nodup_nil (List.forall_mem_nil _)
      cases part with
      | exact =>
          have hread := (exactFilters_ofValue_iff hnone).mpr ⟨hroom, rfl⟩
          exact Binding.Part.of_bind_eq_ok.mpr ⟨[], hread, rfl⟩
      | matching =>
          have hread := (Binding.map_value_ofValue_iff hnone).mpr ⟨hroom, rfl⟩
          exact Binding.Part.of_bind_eq_ok.mpr ⟨[], hread, rfl⟩
      | fields => exact absurd rfl hpart
      | sort =>
          have hread := (sortKeys_object_eq_ok hnone).mpr ⟨hroom, .nil, rfl⟩
          exact Binding.Part.of_bind_eq_ok.mpr ⟨[], hread, rfl⟩
  | array hpart =>
      have hnone : (Json.array []).WellFormed := .array (List.forall_mem_nil _)
      rcases hpart with rfl | rfl
      · obtain ⟨inner, henter, -⟩ := Room.admits_succ_iff.mp hroom
        have hread : Binding.list Binding.string room (Draft.ofValue (.array [])) = .ok [] := by
          rw [Draft.ofValue, Binding.list_array, Binding.enter, henter]
          rfl
        exact Binding.Part.of_bind_eq_ok.mpr ⟨[], hread, rfl⟩
      · have hvalue := (Draft.exists_value?_iff hnone).mpr hroom
        exact Binding.Part.of_bind_eq_ok.mpr ⟨[], sortKeys_array_eq_ok.mpr ⟨hvalue, .nil, rfl⟩, rfl⟩

/-- A member of a sort object as a listed key, with its own members in either order. -/
inductive ListedKey (member : String × Json) : Json → Prop
  | fieldFirst : ListedKey member (.object [("field", .string member.1), ("direction", member.2)])
  | directionFirst :
      ListedKey member (.object [("direction", member.2), ("field", .string member.1)])

/-- Two spellings of a section: sort keys as an object and as a list, a single value and a list of
it, where a condition decides what may be wrapped, values without and with a copy of an earlier one,
and nothing as an empty section and as `null`. -/
inductive Section.Respelled (wraps : Json → Prop) : Section → Json → Json → Prop
  | listed {members : Fields Json} {items : List Json} (h : List.Forall₂ ListedKey members items) :
      Respelled wraps .sort (.object members) (.array items)
  | wrapped {before after : Fields Json} {field : String} {v : Json}
      (hsingle : ∀ items, v ≠ .array items) (hwraps : wraps v) :
      Respelled wraps .exact (.object (before ++ (field, v) :: after))
        (.object (before ++ (field, .array [v]) :: after))
  | copied {before after : Fields Json} {field : String} {earlier later : List Json} {v : Json}
      (h : v ∈ earlier) :
      Respelled wraps .exact (.object (before ++ (field, .array (earlier ++ later)) :: after))
        (.object (before ++ (field, .array (earlier ++ v :: later)) :: after))
  | blank {part : Section} {v : Json} (h : part.Empty v) : Respelled wraps part v .null

/-! ### Listed keys -/

theorem ListedKey.wellFormed {member : String × Json} {item : Json} (h : ListedKey member item)
    (hmember : member.2.WellFormed) : item.WellFormed := by
  cases h with
  | fieldFirst =>
      refine .object (by simp [Fields.names]) ?_
      exact List.forall_mem_cons.mpr ⟨.string _, List.forall_mem_singleton.mpr hmember⟩
  | directionFirst =>
      refine .object (by simp [Fields.names]) ?_
      exact List.forall_mem_cons.mpr ⟨hmember, List.forall_mem_singleton.mpr (.string _)⟩

theorem ListedKey.depth_eq {member : String × Json} {item : Json} (h : ListedKey member item) :
    item.depth = member.2.depth + 1 := by
  cases h <;> simp [Json.depth, Json.depthMembers, Json.depthMember]

theorem sortKey?_listed {member : String × Json} {item : Json} (hmember : member.2.WellFormed)
    (hitem : ListedKey member item) {key : SortKey} :
    sortKey? (Draft.ofValue item) = some key ↔ KeyOf member key := by
  obtain ⟨field, direction⟩ := key
  have hvalue := Draft.value?_ofValue hmember
  cases hdirection : Direction.ofJson member.2 with
  | error fault =>
      cases hitem <;>
        simp [Draft.ofValue, Draft.ofMembers, Draft.ofMember, sortKey?, Draft.soleMember?,
          sortKey?.key?, hvalue, hdirection, KeyOf]
  | ok found =>
      cases hitem <;>
        simp [Draft.ofValue, Draft.ofMembers, Draft.ofMember, sortKey?, Draft.soleMember?,
          sortKey?.key?, hvalue, hdirection, KeyOf, eq_comm]

/-- Sort keys are the same as an object and as a list. Their directions are no containers, so that
there is room for both. -/
theorem sortKeys_listed {members : Fields Json} {items : List Json}
    (hmembers : (Json.object members).WellFormed) (hitems : List.Forall₂ ListedKey members items)
    {room : Room} (hroom : room.Admits 2) {keys : List SortKey} :
    sortKeys room (Draft.ofValue (.object members)) = .ok keys ↔
      sortKeys room (Draft.ofValue (.array items)) = .ok keys := by
  have hdirections := hmembers.members
  have hread : List.Forall₂ (fun item key => sortKey? (Draft.ofValue item) = some key) items keys ↔
      List.Forall₂ KeyOf members keys := by
    clear hmembers
    induction hitems generalizing keys with
    | nil => rw [List.forall₂_nil_left_iff, List.forall₂_nil_left_iff]
    | cons hitem _ ih =>
        obtain ⟨hdirection, hdirections⟩ := List.forall_mem_cons.mp hdirections
        simp only [List.forall₂_cons_left_iff, sortKey?_listed hdirection hitem, ih hdirections]
  have hlist : (Json.array items).WellFormed := by
    refine .array fun item hitem => ?_
    obtain ⟨member, hmember, hlisted⟩ := exists_mem_of_forall₂ hitems item hitem
    exact hlisted.wellFormed (hdirections member hmember)
  rw [sortKeys_object_eq_ok hmembers, sortKeys_array_eq_ok, Draft.exists_value?_iff hlist, hread]
  -- If there is a key for each member, then no direction is a container.
  refine and_congr_left fun ⟨hkeys, _⟩ => ?_
  have hflat : ∀ member ∈ members, member.2.depth = 0 := by
    intro member hmember
    obtain ⟨key, -, -, hdirection⟩ := exists_mem_of_forall₂ hkeys.flip member hmember
    exact depth_of_direction hdirection
  refine iff_of_true (hroom.mono ?_) (hroom.mono ?_)
  · have hdepth : Json.depthMembers members ≤ 0 :=
      Json.depthMembers_le_iff.mpr fun member hmember => Nat.le_of_eq (hflat member hmember)
    rw [Json.depth]
    omega
  · refine Nat.succ_le_succ (Json.depthItems_le_iff.mpr fun item hitem => ?_)
    obtain ⟨member, hmember, hlisted⟩ := exists_mem_of_forall₂ hitems item hitem
    exact Nat.le_of_eq (by rw [hlisted.depth_eq, hflat member hmember])

/-! ### Replaced values -/

/-- A value of exact filters may be replaced by one that lists the same, if there is room for both
or for none. -/
theorem exactFilters_replace {before after : Fields Json} {field : String} {v w : Json}
    (hv : (Json.object (before ++ (field, v) :: after)).WellFormed) (hw : w.WellFormed)
    (hvalues : filterValues v = filterValues w) {room : Room}
    (hdepth : room.Admits (v.depth + 1) ↔ room.Admits (w.depth + 1)) {fs : Fields (List Json)} :
    exactFilters room (Draft.ofValue (.object (before ++ (field, v) :: after))) = .ok fs ↔
      exactFilters room (Draft.ofValue (.object (before ++ (field, w) :: after))) = .ok fs := by
  have hreplaced : (Json.object (before ++ (field, w) :: after)).WellFormed := by
    obtain ⟨hbefore, -, hafter⟩ : (∀ member ∈ before, member.2.WellFormed) ∧ v.WellFormed ∧
        ∀ member ∈ after, member.2.WellFormed := by
      simpa only [List.forall_mem_append, List.forall_mem_cons] using hv.members
    refine .object (by simpa [Fields.names] using hv.nodup) ?_
    simpa only [List.forall_mem_append, List.forall_mem_cons] using ⟨hbefore, hw, hafter⟩
  rw [exactFilters_ofValue_iff hv, exactFilters_ofValue_iff hreplaced]
  refine and_congr ?_ (by simp only [List.map_append, List.map_cons, hvalues])
  rw [Json.depth, Json.depth, Room.admits_succ_iff, Room.admits_succ_iff]
  refine exists_congr fun inner => and_congr_right fun henter => ?_
  rw [Room.admits_iff_of_enter? henter, Room.admits_iff_of_enter? henter] at hdepth
  simp only [Room.admits_depthMembers_iff, List.forall_mem_append, List.forall_mem_cons, hdepth]

/-- A section is bound alike in both spellings, if what may be wrapped may be so in that room. -/
theorem Section.Respelled.bind_iff {wraps : Json → Prop} {part : Section} {v w : Json}
    (h : Respelled wraps part v w) (hv : v.WellFormed) {room : Room} (hroom : room.Admits 2)
    (hwraps : ∀ u, wraps u → (room.Admits (u.depth + 1) ↔ room.Admits (u.depth + 2)))
    (r r' : Request) : part.toPart.bind room (Draft.ofValue v) r = .ok r' ↔
      part.toPart.bind room (Draft.ofValue w) r = .ok r' := by
  cases h with
  | listed hitems =>
      rw [Section.toPart, Binding.Part.of_bind_eq_ok, Binding.Part.of_bind_eq_ok]
      simp only [sortKeys_listed hv hitems hroom]
  | @wrapped before after field u hsingle hwrapped =>
      have hu : u.WellFormed := hv.members (field, u) (by simp)
      have hlist : (Json.array [u]).WellFormed := .array (List.forall_mem_singleton.mpr hu)
      rw [Section.toPart, exactPart, Binding.Part.of_bind_eq_ok, Binding.Part.of_bind_eq_ok]
      simp only [exactFilters_replace hv hlist (filterValues_single hsingle)
        (by rw [Json.depth_array_singleton]; exact hwraps u hwrapped)]
  | @copied before after field earlier later u hcopy =>
      have hvalues : (Json.array (earlier ++ later)).WellFormed := hv.members (field, _) (by simp)
      have hu : u.WellFormed := hvalues.items u (List.mem_append_left _ hcopy)
      have hmore : (Json.array (earlier ++ u :: later)).WellFormed := by
        obtain ⟨hearlier, hlater⟩ := List.forall_mem_append.mp hvalues.items
        exact .array (List.forall_mem_append.mpr ⟨hearlier, List.forall_mem_cons.mpr ⟨hu, hlater⟩⟩)
      rw [Section.toPart, exactPart, Binding.Part.of_bind_eq_ok, Binding.Part.of_bind_eq_ok]
      simp only [exactFilters_replace hv hmore (Json.distinct_copy hu.same_refl hcopy later)
        (by rw [Json.depth_copy hcopy])]
  | blank hempty => rw [hempty.bind_eq (hroom.mono (by decide)), Draft.ofValue, Section.bind_null]

/-! ### Respelled requests -/

/-- Two spellings of a request: a section in two spellings, exact filters under both of their names,
and an empty section that is there and that is left out. -/
inductive Respelled (wraps : Json → Prop) : Json → Json → Prop
  | part {before after : Fields Json} {name : String} {part : Section} {v w : Json}
      (hname : Section.ofName? name = some part) (h : part.Respelled wraps v w) :
      Respelled wraps (.object (before ++ (name, v) :: after))
        (.object (before ++ (name, w) :: after))
  | renamed {before after : Fields Json} {v : Json} :
      Respelled wraps (.object (before ++ ("exact_filters", v) :: after))
        (.object (before ++ ("exactFilters", v) :: after))
  | omitted {before after : Fields Json} {name : String} {part : Section} {v : Json}
      (hname : Section.ofName? name = some part) (h : part.Empty v) :
      Respelled wraps (.object (before ++ (name, v) :: after)) (.object (before ++ after))

/-- Exact filters are not given under both of their names. -/
def SpelledOnce (v : Json) : Prop := v.get? "exact_filters" = none ∨ v.get? "exactFilters" = none

/-- No other member belongs to the section of one. -/
theorem avoid_of_spelledOnce {before after : Fields Json} {name : String} {part : Section}
    {v : Json} (hv : (Json.object (before ++ (name, v) :: after)).WellFormed)
    (honce : SpelledOnce (.object (before ++ (name, v) :: after)))
    (hname : Section.ofName? name = some part) :
    ∀ member ∈ before ++ after, Section.ofName? member.1 ≠ some part := by
  have hnodup : (Fields.names ((name, v) :: (before ++ after))).Nodup :=
    (List.perm_middle.map Prod.fst).nodup_iff.mp hv.nodup
  intro member hmember hother
  have hnamed : name ∈ Fields.names (before ++ (name, v) :: after) := by simp [Fields.names]
  have hgiven : member.1 ∈ Fields.names (before ++ (name, v) :: after) := by
    refine List.mem_map_of_mem (List.mem_append.mpr ?_)
    exact (List.mem_append.mp hmember).imp_right (List.mem_cons_of_mem _)
  have hone : "exact_filters" ∉ Fields.names (before ++ (name, v) :: after) ∨
      "exactFilters" ∉ Fields.names (before ++ (name, v) :: after) :=
    honce.imp Fields.get?_eq_none.mp Fields.get?_eq_none.mp
  rcases Section.ofName?_inj hname hother with heq | ⟨rfl, hsecond⟩ | ⟨rfl, hsecond⟩
  · exact (List.nodup_cons.mp hnodup).1 (List.mem_map.mpr ⟨member, hmember, heq.symm⟩)
  · exact hone.elim (· hnamed) (· (hsecond ▸ hgiven))
  · exact hone.elim (· (hsecond ▸ hgiven)) (· hnamed)

/-- A respelled request is bound alike, if what may be wrapped may be so in that room. -/
theorem Respelled.bind_iff {wraps : Json → Prop} {v w : Json} (h : Respelled wraps v w)
    (hv : v.WellFormed) (honce : SpelledOnce v) {room : Room} (hroom : room.Admits 3)
    (hwraps : ∀ u, wraps u → (room.Admits (u.depth + 2) ↔ room.Admits (u.depth + 3)))
    (r : Request) :
    Request.bind room (Draft.ofValue v) = .ok r ↔ Request.bind room (Draft.ofValue w) = .ok r := by
  have hmembers : ∀ (before after : Fields Json) (name : String) (u : Json),
      Draft.ofMembers (before ++ (name, u) :: after) =
        Draft.ofMembers before ++ (some name, Draft.ofValue u) :: Draft.ofMembers after := by
    simp [Draft.ofMembers_eq_map]
  cases h with
  | @part before after name part v w hname hpart =>
      simp only [bind_object_eq_ok, hmembers]
      refine exists_congr fun inner => and_congr_right fun henter => ?_
      have hfind := find?_of_ofName? hname
      refine Binding.bindMembers_replace hfind hfind fun r r' => ?_
      refine hpart.bind_iff (hv.members (name, v) (by simp))
        ((Room.admits_iff_of_enter? henter).mp hroom) (fun u hu => ?_) r r'
      rw [← Room.admits_iff_of_enter? henter, ← Room.admits_iff_of_enter? henter]
      exact hwraps u hu
  | renamed =>
      simp only [bind_object_eq_ok, hmembers]
      refine exists_congr fun inner => and_congr_right fun _ => ?_
      have hfind := @find?_of_ofName? "exact_filters" .exact rfl
      have hother := @find?_of_ofName? "exactFilters" .exact rfl
      exact Binding.bindMembers_replace hfind hother fun _ _ => Iff.rfl
  | @omitted before after name part v hname hempty =>
      -- No other member is on the section, so it is still blank where its own member stands.
      obtain ⟨hbefore, hafter⟩ :=
        List.forall_mem_append.mp (avoid_of_spelledOnce hv honce hname)
      have hboth : Draft.ofMembers (before ++ after) =
          Draft.ofMembers before ++ Draft.ofMembers after := by
        simp [Draft.ofMembers_eq_map]
      simp only [bind_object_eq_ok, hmembers, hboth]
      refine exists_congr fun inner => and_congr_right fun henter => ?_
      have hinner : inner.Admits 1 := ((Room.admits_iff_of_enter? henter).mp hroom).mono (by decide)
      refine Binding.bindMembers_omit (P := fun r => Request.Agree part r .empty)
        (find?_of_ofName? hname) (fun r hr => ?_) (fun other hother hne => ?_) (avoid_part hbefore)
        (avoid_part hafter) List.not_mem_nil ?_
      · rw [hempty.bind_eq hinner, Section.blank_eq hr]
      · rw [requestParts_eq] at hother
        obtain ⟨other, -, rfl⟩ := List.mem_map.mp hother
        have hapart : other ≠ part := fun heq => hne (congrArg (·.toPart.name) heq)
        exact fun room d r r' hbind hr => (Section.agree_bind hapart hbind).trans hr
      · cases part <;> rfl

theorem ofText_eq_ok {text : String} {v : Json} (h : Json.Spells text v) {r : Request} :
    Binding.ofText Request.bind text = .ok r ↔
      Request.bind Json.textRoom (Draft.ofValue v) = .ok r := by
  unfold Binding.ofText
  rw [h, bind_eq_ok]
  simp only [Binding.closing, if_true, Except.ok.injEq, exists_eq_right]

/-! ### One exact filter -/

/-- A request with one exact filter. -/
def oneFilter (v : Json) : Json := .object [("exact_filters", .object [("a", v)])]

/-- The text of a request with one exact filter, around the text of its value. -/
def oneFilterText (part : List Char) : String :=
  String.ofList ("\x7b\"exact_filters\":\x7b\"a\":".toList ++ (part ++ "\x7d\x7d".toList))

theorem wellFormed_oneFilter {v : Json} (hv : v.WellFormed) : (oneFilter v).WellFormed :=
  .singleton _ (.singleton _ hv)

theorem spells_oneFilter {v : Json} {part : List Char} (h : Json.Reads part (Json.tokensOf v)) :
    Json.Spells (oneFilterText part) (oneFilter v) := by
  have hopening : Json.Reads "\x7b\"exact_filters\":\x7b\"a\":".toList
      [.openObject, .scalar (.string "exact_filters"), .colon, .openObject, .scalar (.string "a"),
        .colon] := ⟨by decide, fun _ _ => rfl⟩
  have hclosing : Json.Reads "\x7d\x7d".toList [.closeObject, .closeObject] :=
    ⟨by decide, fun _ _ => rfl⟩
  have htext : (oneFilterText part).toList =
      "\x7b\"exact_filters\":\x7b\"a\":".toList ++ (part ++ "\x7d\x7d".toList) :=
    String.toList_ofList
  apply Json.spells_of_tokens
  rw [htext, (hopening.append (h.append hclosing)).tokens_eq]
  simp [oneFilter, Json.tokensOf, Json.tokensOfMembers, Json.tokensOfMember]

/-- One exact filter is read where there is room for its value, two containers further in. -/
theorem bind_oneFilter_eq_ok {v : Json} (hv : v.WellFormed) {room : Room} {r : Request} :
    Request.bind room (Draft.ofValue (oneFilter v)) = .ok r ↔
      room.Admits (v.depth + 2) ∧ { exact := [("a", filterValues v)] } = r := by
  have hfilters := (wellFormed_oneFilter hv).members _ List.mem_cons_self
  rw [oneFilter, @bind_single_eq_ok _ .exact _ _ _ rfl, Room.admits_succ_iff, ← exists_and_right]
  simp only [Section.toPart, exactPart, Binding.Part.of_bind_eq_ok,
    exactFilters_ofValue_iff hfilters, Json.depth_object_singleton, and_assoc, exists_and_left,
    exists_eq_left', List.map_cons, List.map_nil]
  rfl

/-- From a text, an exact filter is read if its value is at most 125 containers deep. -/
theorem ofText_oneFilter_eq_ok {v : Json} (hv : v.WellFormed) {part : List Char}
    (h : Json.Reads part (Json.tokensOf v)) {r : Request} :
    Binding.ofText Request.bind (oneFilterText part) = .ok r ↔
      v.depth ≤ 125 ∧ { exact := [("a", filterValues v)] } = r := by
  rw [ofText_eq_ok (spells_oneFilter h), bind_oneFilter_eq_ok hv]
  refine and_congr_left fun _ => Room.admits_some_iff.trans ?_
  omega

theorem reads_member {v : Json} {part : List Char} (h : Json.Reads part (Json.tokensOf v)) :
    Json.Reads ("\x7b\"b\":".toList ++ (part ++ "\x7d".toList))
      (Json.tokensOf (.object [("b", v)])) := by
  have hopening : Json.Reads "\x7b\"b\":".toList [.openObject, .scalar (.string "b"), .colon] :=
    ⟨by decide, fun _ _ => rfl⟩
  have hclosing : Json.Reads "\x7d".toList [.closeObject] := ⟨by decide, fun _ _ => rfl⟩
  have hread := hopening.append (h.append hclosing)
  simpa [Json.tokensOf, Json.tokensOfMembers, Json.tokensOfMember] using hread

theorem respelled_oneFilter {wraps : Json → Prop} {v : Json} (hsingle : ∀ items, v ≠ .array items)
    (hwraps : wraps v) : Respelled wraps (oneFilter v) (oneFilter (.array [v])) :=
  @Respelled.part _ [] [] "exact_filters" .exact _ _ rfl
    (@Section.Respelled.wrapped _ [] [] "a" v hsingle hwraps)

/-! ### Values and texts -/

/-- Respelled requests are read as one, or none of the two is read. From a text they are so unless a
value is wrapped, or taken out, that is nested as deep as a text allows at its place. A sort list
that names a field twice is never read. -/
theorem Request.bind_respelled :
    (∀ v w : Json, v.WellFormed → SpelledOnce v → Respelled (fun _ => True) v w → ∀ r,
      Binding.ofValue Request.bind v = .ok r ↔ Binding.ofValue Request.bind w = .ok r) ∧
    (∀ v w : Json, v.WellFormed → SpelledOnce v → Respelled (fun u => u.depth ≠ 125) v w →
      ∀ text other, Json.Spells text v → Json.Spells other w → ∀ r,
        Binding.ofText Request.bind text = .ok r ↔ Binding.ofText Request.bind other = .ok r) ∧
    ∀ (members : Fields Json) (items : List Json), ("sort", .array items) ∈ members →
      ∀ a b, [a, b].Sublist items → ∀ field, NamesField field a → NamesField field b →
        ∀ r, Binding.ofValue Request.bind (.object members) ≠ .ok r ∧
          ∀ text, Json.Spells text (.object members) →
            Binding.ofText Request.bind text ≠ .ok r := by
  refine ⟨fun v w hv honce h r => ?_, fun v w hv honce h text other htext hother r => ?_,
    fun members items hsort a b hitems field ha hb r => ⟨?_, fun text htext => ?_⟩⟩
  · exact h.bind_iff hv honce (Room.admits_none _)
      (fun _ _ => iff_of_true (Room.admits_none _) (Room.admits_none _)) r
  · rw [ofText_eq_ok htext, ofText_eq_ok hother]
    refine h.bind_iff hv honce (Room.admits_some_iff.mpr (by decide)) (fun u hu => ?_) r
    rw [Room.admits_some_iff, Room.admits_some_iff]
    omega
  · exact bind_ne_ok_of_twice hsort hitems ha hb none r
  · rw [ne_eq, ofText_eq_ok htext]
    exact bind_ne_ok_of_twice hsort hitems ha hb Json.textRoom r

/-- Sort keys as an object and as a list, a value in a text and a list of it there, and a list that
names a field twice. -/
theorem Request.bind_respelled_sorted :
    let keyed : Json := .object [("sort", .object [("total", .string "DESC"), ("id", .ofNat 1)])]
    let listed : Json := .object [("sort", .array [
      .object [("field", .string "total"), ("direction", .string "DESC")],
      .object [("direction", .ofNat 1), ("field", .string "id")]])]
    let keys : Request := { sort := [⟨"total", .descending⟩, ⟨"id", .ascending⟩] }
    let paid : Json := .string "PAID"
    let part := "\"PAID\"".toList
    let filters : Request := { exact := [("a", [paid])] }
    let twice : List Json :=
      [.object [("field", .string "id"), ("direction", .ofNat 1)],
        .array [.string "id", .string "desc"]]
    Respelled (fun _ => True) keyed listed ∧ Binding.ofValue Request.bind keyed = .ok keys ∧
      Binding.ofValue Request.bind listed = .ok keys ∧
      Json.Spells (oneFilterText part) (oneFilter paid) ∧
      Binding.ofText Request.bind (oneFilterText part) = .ok filters ∧
      Binding.ofText Request.bind (oneFilterText ('[' :: (part ++ [']']))) = .ok filters ∧
      ∀ r, Binding.ofValue Request.bind (.object [("sort", .array twice)]) ≠ .ok r := by
  intro keyed listed keys paid part filters twice
  obtain ⟨hvalues, htexts, htwice⟩ := Request.bind_respelled
  have hrespelled : Respelled (fun _ => True) keyed listed :=
    @Respelled.part _ [] [] "sort" .sort _ _ rfl
      (.listed (.cons .fieldFirst (.cons .directionFirst .nil)))
  have hwellFormed : keyed.WellFormed :=
    Draft.wellFormed_of_value? none (Draft.ofValue keyed) keyed rfl
  have hkeyed : Binding.ofValue Request.bind keyed = .ok keys := by
    have hword : Direction.ofJson (.string "DESC") = .ok .descending := by
      simp [Direction.ofJson, ← String.toList_inj]
    refine (@bind_single_eq_ok _ .sort _ _ _ rfl).mpr ⟨none, rfl, Binding.Part.of_bind_eq_ok.mpr ?_⟩
    have hsort := hwellFormed.members _ List.mem_cons_self
    refine ⟨keys.sort, (sortKeys_object_eq_ok hsort).mpr ?_, rfl⟩
    exact ⟨Room.admits_none _, .cons ⟨rfl, hword⟩ (.cons ⟨rfl, rfl⟩ .nil), rfl⟩
  have hpart : Json.Reads part (Json.tokensOf paid) := ⟨by decide, fun _ _ => rfl⟩
  have htext : Binding.ofText Request.bind (oneFilterText part) = .ok filters :=
    (ofText_oneFilter_eq_ok (.string _) hpart).mpr ⟨by decide, rfl⟩
  have hwrapped := htexts _ _ (wellFormed_oneFilter (.string _)) (.inr rfl)
    (respelled_oneFilter (v := paid) (by simp [paid]) (by decide)) _ _ (spells_oneFilter hpart)
    (spells_oneFilter hpart.wrap) filters
  refine ⟨hrespelled, hkeyed, (hvalues _ _ hwellFormed (.inl rfl) hrespelled keys).mp hkeyed,
    spells_oneFilter hpart, htext, hwrapped.mp htext, fun r => ?_⟩
  exact (htwice _ twice (List.mem_singleton_self _) _ _ (List.Sublist.refl _) "id"
    (.member (by simp)) .first r).1

/-- A value that is nested as deep as a text allows is read, and a list of it is not. -/
theorem wrapped_too_deep :
    let deep : Json := .object [("b", Json.nested 123)]
    let part := "\x7b\"b\":".toList ++
      (List.replicate 124 '[' ++ List.replicate 124 ']' ++ "\x7d".toList)
    let text := oneFilterText part
    let other := oneFilterText ('[' :: (part ++ [']']))
    (oneFilter deep).WellFormed ∧ SpelledOnce (oneFilter deep) ∧
      Respelled (fun _ => True) (oneFilter deep) (oneFilter (.array [deep])) ∧
      Json.Spells text (oneFilter deep) ∧ Json.Spells other (oneFilter (.array [deep])) ∧
      Binding.ofText Request.bind text = .ok { exact := [("a", [deep])] } ∧
      ∀ r, Binding.ofText Request.bind other ≠ .ok r := by
  intro deep part text other
  have hdeep : deep.WellFormed := .singleton _ (Json.wellFormed_nested 123)
  have hpart : Json.Reads part (Json.tokensOf deep) := reads_member (Json.reads_nested 123)
  have hdepth : deep.depth = 125 := by
    rw [Json.depth_object_singleton, Json.depth_nested]
  refine ⟨wellFormed_oneFilter hdeep, .inr rfl, respelled_oneFilter (by simp [deep]) trivial,
    spells_oneFilter hpart, spells_oneFilter hpart.wrap, ?_, fun r hread => ?_⟩
  · exact (ofText_oneFilter_eq_ok hdeep hpart).mpr ⟨Nat.le_of_eq hdepth, rfl⟩
  · have hlist : (Json.array [deep]).WellFormed := .array (List.forall_mem_singleton.mpr hdeep)
    have hbound := ((ofText_oneFilter_eq_ok hlist hpart.wrap).mp hread).1
    rw [Json.depth_array_singleton, hdepth] at hbound
    exact absurd hbound (by decide)

end OrderDesk.Filter
