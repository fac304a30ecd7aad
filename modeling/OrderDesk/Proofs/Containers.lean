import Mathlib.Tactic.Common
import OrderDesk.Json.Reader
import OrderDesk.Proofs.Equality

/-! # Containers in values

A value is taken apart into what stands in its arrays and objects. How many of these stand one
inside the other decides whether a value is read where only so many containers may be entered, and
nothing else does.
-/

namespace OrderDesk.Json

/-- What holds of every scalar, and of every container if it holds of what stands there, holds of
every value. -/
@[elab_as_elim]
theorem inductionOn {motive : Json → Prop} (v : Json) (null : motive null)
    (boolean : ∀ b, motive (boolean b)) (number : ∀ n, motive (number n))
    (string : ∀ s, motive (string s))
    (array : ∀ items, (∀ item ∈ items, motive item) → motive (array items))
    (object : ∀ members : List (String × Json), (∀ member ∈ members, motive member.2) →
      motive (object members)) : motive v := by
  match v with
  | .null => exact null
  | .boolean b => exact boolean b
  | .number n => exact number n
  | .string s => exact string s
  | .array items =>
      exact array items fun item hitem =>
        inductionOn item null boolean number string array object
  | .object members =>
      exact object members fun member hmember =>
        inductionOn member.2 null boolean number string array object
termination_by sizeOf v
decreasing_by
  · have hlt := List.sizeOf_lt_of_mem hitem
    simp only [Json.array.sizeOf_spec]
    omega
  · have hlt := List.sizeOf_lt_of_mem hmember
    obtain ⟨name, value⟩ := member
    simp only [Json.object.sizeOf_spec, Prod.mk.sizeOf_spec] at hlt ⊢
    omega

/-! ### Depth -/

mutual

/-- How many containers stand one inside the other. -/
def depth : Json → Nat
  | array items => depthItems items + 1
  | object members => depthMembers members + 1
  | _ => 0

def depthItems : List Json → Nat
  | [] => 0
  | item :: items => max (depth item) (depthItems items)

def depthMembers : List (String × Json) → Nat
  | [] => 0
  | member :: members => max (depthMember member) (depthMembers members)

def depthMember : String × Json → Nat
  | (_, value) => depth value

end

theorem depthItems_le_iff {items : List Json} {n : Nat} :
    depthItems items ≤ n ↔ ∀ item ∈ items, item.depth ≤ n := by
  induction items with
  | nil => simp [depthItems]
  | cons item items ih => rw [depthItems, Nat.max_le, ih, List.forall_mem_cons]

theorem depthMembers_le_iff {members : List (String × Json)} {n : Nat} :
    depthMembers members ≤ n ↔ ∀ member ∈ members, member.2.depth ≤ n := by
  induction members with
  | nil => simp [depthMembers]
  | cons member members ih =>
      rw [depthMembers, depthMember, Nat.max_le, ih, List.forall_mem_cons]

theorem depth_array_singleton (v : Json) : (array [v]).depth = v.depth + 1 := by
  rw [depth, depthItems, depthItems, Nat.max_zero]

theorem depth_object_singleton (name : String) (v : Json) :
    (object [(name, v)]).depth = v.depth + 1 := by
  rw [depth, depthMembers, depthMember, depthMembers, Nat.max_zero]

/-- A further copy of an item makes an array no deeper. -/
theorem depth_copy {v : Json} {earlier : List Json} (h : v ∈ earlier) (later : List Json) :
    (array (earlier ++ later)).depth = (array (earlier ++ v :: later)).depth := by
  have hle : ∀ n, depthItems (earlier ++ later) ≤ n ↔
      depthItems (earlier ++ v :: later) ≤ n := by
    intro n
    simp only [depthItems_le_iff, List.forall_mem_append, List.forall_mem_cons]
    exact and_congr_right fun hearlier => (and_iff_right (hearlier v h)).symm
  have hless := (hle _).mpr (Nat.le_refl _)
  have hmore := (hle _).mp (Nat.le_refl _)
  exact congrArg (· + 1) (Nat.le_antisymm hless hmore)

/-- So many containers, one inside the other, may be entered. -/
def Room.Admits (room : Room) (levels : Nat) : Prop := ∀ limit ∈ room, levels ≤ limit

namespace Room

variable {room inner : Room} {levels fewer : Nat}

theorem Admits.mono (h : room.Admits levels) (hle : fewer ≤ levels) : room.Admits fewer :=
  fun limit hlimit => Nat.le_trans hle (h limit hlimit)

theorem admits_none (levels : Nat) : Admits none levels := fun _ h => by cases h

theorem admits_some_iff {limit : Nat} : Admits (some limit) levels ↔ levels ≤ limit := by
  simp [Admits]

theorem admits_zero (room : Room) : room.Admits 0 := fun _ _ => Nat.zero_le _

/-- A container takes one of the levels. -/
theorem admits_succ_iff :
    room.Admits (levels + 1) ↔ ∃ inner, room.enter? = some inner ∧ inner.Admits levels := by
  match room with
  | none => exact ⟨fun _ => ⟨none, rfl, admits_none levels⟩, fun _ => admits_none _⟩
  | some 0 => simp [admits_some_iff, enter?]
  | some (limit + 1) => simp [admits_some_iff, enter?]

theorem admits_iff_of_enter? (h : room.enter? = some inner) :
    room.Admits (levels + 1) ↔ inner.Admits levels := by
  rw [admits_succ_iff, h]
  simp

/-- There is room for the deepest item if there is for each one. -/
theorem admits_depthItems_iff {items : List Json} (room : Room) :
    room.Admits (depthItems items) ↔ ∀ item ∈ items, room.Admits item.depth := by
  simp only [Admits, depthItems_le_iff]
  exact ⟨fun h item hitem limit hlimit => h limit hlimit item hitem,
    fun h limit hlimit item hitem => h item hitem limit hlimit⟩

theorem admits_depthMembers_iff {members : List (String × Json)} (room : Room) :
    room.Admits (depthMembers members) ↔ ∀ member ∈ members, room.Admits member.2.depth := by
  simp only [Admits, depthMembers_le_iff]
  exact ⟨fun h member hmember limit hlimit => h limit hlimit member hmember,
    fun h limit hlimit member hmember => h member hmember limit hlimit⟩

end Room

namespace Draft

variable {room : Room}

theorem value?_array (items : List Draft) :
    value? room (array items true) =
      room.enter?.bind fun inner => (values? inner items).map .array := by
  unfold value?
  cases room.enter? <;> rfl

theorem value?_object (members : List (Option String × Draft)) :
    value? room (object members true) =
      room.enter?.bind fun inner =>
        (memberValues? inner members).map fun ms => .object (Fields.ofEntries ms) := by
  unfold value?
  cases room.enter? <;> rfl

theorem values?_ofValues_iff {items ws : List Json}
    (h : ∀ item ∈ items, ∀ w, (ofValue item).value? room = some w ↔
      room.Admits item.depth ∧ w = item) :
    values? room (ofValues items) = some ws ↔
      (∀ item ∈ items, room.Admits item.depth) ∧ ws = items := by
  induction items generalizing ws with
  | nil => simp [ofValues, values?, eq_comm]
  | cons item items ih =>
      obtain ⟨hitem, hitems⟩ := List.forall_mem_cons.mp h
      simp only [ofValues, values?, Option.bind_eq_bind, Option.bind_eq_some_iff, hitem,
        ih hitems, List.forall_mem_cons, Option.pure_def, Option.some.injEq]
      constructor
      · rintro ⟨_, ⟨hfirst, rfl⟩, _, ⟨hrest, rfl⟩, rfl⟩
        exact ⟨⟨hfirst, hrest⟩, rfl⟩
      · rintro ⟨⟨hfirst, hrest⟩, rfl⟩
        exact ⟨item, ⟨hfirst, rfl⟩, items, ⟨hrest, rfl⟩, rfl⟩

theorem memberValues?_ofMembers_iff {members ws : List (String × Json)}
    (h : ∀ member ∈ members, ∀ w, (ofValue member.2).value? room = some w ↔
      room.Admits member.2.depth ∧ w = member.2) :
    memberValues? room (ofMembers members) = some ws ↔
      (∀ member ∈ members, room.Admits member.2.depth) ∧ ws = members := by
  induction members generalizing ws with
  | nil => simp [ofMembers, memberValues?, eq_comm]
  | cons member members ih =>
      obtain ⟨name, item⟩ := member
      obtain ⟨hitem, hitems⟩ := List.forall_mem_cons.mp h
      simp only [ofMembers, ofMember, memberValues?, memberValue?, Option.bind_eq_bind,
        Option.bind_eq_some_iff, hitem, ih hitems, List.forall_mem_cons, Option.pure_def,
        Option.some.injEq]
      constructor
      · rintro ⟨_, ⟨_, ⟨hfirst, rfl⟩, rfl⟩, _, ⟨hrest, rfl⟩, rfl⟩
        exact ⟨⟨hfirst, hrest⟩, rfl⟩
      · rintro ⟨⟨hfirst, hrest⟩, rfl⟩
        exact ⟨_, ⟨item, ⟨hfirst, rfl⟩, rfl⟩, members, ⟨hrest, rfl⟩, rfl⟩

/-- The draft of a value is read as that value where there is room for it, and not at all else. -/
theorem value?_ofValue_iff {v w : Json} (hv : v.WellFormed) :
    (ofValue v).value? room = some w ↔ room.Admits v.depth ∧ w = v := by
  induction hv generalizing room w with
  | null | boolean b | number n | string s =>
      simp [ofValue, value?, depth, Room.admits_zero, eq_comm]
  | @array items _ ih =>
      rw [ofValue, value?_array, depth, Room.admits_succ_iff]
      cases room.enter? with
      | none => simp
      | some inner =>
          simp only [Option.bind_some, Option.map_eq_some_iff,
            values?_ofValues_iff fun item hitem w => ih item hitem, Option.some.injEq,
            exists_eq_left', Room.admits_depthItems_iff]
          constructor
          · rintro ⟨_, ⟨hadmits, rfl⟩, rfl⟩
            exact ⟨hadmits, rfl⟩
          · rintro ⟨hadmits, rfl⟩
            exact ⟨items, ⟨hadmits, rfl⟩, rfl⟩
  | @object members hnodup _ ih =>
      rw [ofValue, value?_object, depth, Room.admits_succ_iff]
      cases room.enter? with
      | none => simp
      | some inner =>
          simp only [Option.bind_some, Option.map_eq_some_iff,
            memberValues?_ofMembers_iff fun member hmember w => ih member hmember,
            Option.some.injEq, exists_eq_left', Room.admits_depthMembers_iff]
          constructor
          · rintro ⟨_, ⟨hadmits, rfl⟩, rfl⟩
            exact ⟨hadmits, by rw [Fields.ofEntries_of_nodup hnodup]⟩
          · rintro ⟨hadmits, rfl⟩
            exact ⟨members, ⟨hadmits, rfl⟩, by rw [Fields.ofEntries_of_nodup hnodup]⟩

theorem exists_value?_iff {v : Json} (hv : v.WellFormed) :
    (∃ w, (ofValue v).value? room = some w) ↔ room.Admits v.depth := by
  simp [value?_ofValue_iff hv]

end Draft

end OrderDesk.Json
