import Mathlib.Data.List.Forall2
import Mathlib.Tactic.Common
import OrderDesk.Binding

/-! # Binding the members of a value

A value is bound through the draft that spells it. If every member of an object answers to a part
of a record and binds to what one function puts there, the members may come in any order: the
record is what that function makes of their names, one after the other. Conversely, a field that
only one part writes keeps the value which that part was given first.
-/

namespace OrderDesk

@[simp] theorem ok_bind {α β ε : Type} (a : α) (f : α → Except ε β) :
    (Except.ok a : Except ε α) >>= f = f a := rfl

@[simp] theorem error_bind {α β ε : Type} (e : ε) (f : α → Except ε β) :
    (Except.error e : Except ε α) >>= f = .error e := rfl

theorem bind_eq_ok {α β ε : Type} {x : Except ε α} {f : α → Except ε β} {b : β} :
    x >>= f = .ok b ↔ ∃ a, x = .ok a ∧ f a = .ok b := by
  cases x with
  | error e => simp
  | ok a => simp

/-- A check followed by a computation succeeds if both do. -/
theorem andThen_eq_ok {α ε : Type} {check : Except ε Unit} {x : Except ε α} {a : α} :
    (check >>= fun _ => x) = .ok a ↔ check = .ok () ∧ x = .ok a := by
  cases check with
  | error e => simp
  | ok u => simp

theorem mapError_eq_ok {ε ε' α : Type} {f : ε → ε'} {x : Except ε α} {a : α} :
    x.mapError f = .ok a ↔ x = .ok a := by
  cases x <;> simp [Except.mapError]

theorem mapError_eq_error {ε ε' α : Type} {f : ε → ε'} {x : Except ε α} {e' : ε'} :
    x.mapError f = .error e' ↔ ∃ e, x = .error e ∧ f e = e' := by
  cases x <;> simp [Except.mapError]

/-- Checks of all items succeed if each one does. -/
theorem forM_eq_ok {α ε : Type} {check : α → Except ε Unit} {xs : List α} :
    xs.forM check = .ok () ↔ ∀ x ∈ xs, check x = .ok () := by
  induction xs with
  | nil => exact ⟨fun _ x hx => absurd hx List.not_mem_nil, fun _ => rfl⟩
  | cons x xs ih =>
      have hcons : (x :: xs).forM check = (check x >>= fun _ => xs.forM check) := rfl
      rw [hcons, andThen_eq_ok, ih, List.forall_mem_cons]

/-- A map over a list succeeds if it does for every item. -/
theorem mapM_eq_ok_map {α β ε : Type} {f : α → Except ε β} {g : α → β} {xs : List α}
    (h : ∀ x ∈ xs, f x = .ok (g x)) : xs.mapM f = .ok (xs.map g) := by
  induction xs with
  | nil => rfl
  | cons x xs ih =>
      obtain ⟨hhead, htail⟩ := List.forall_mem_cons.mp h
      rw [List.mapM_cons, hhead, ih htail]
      rfl

/-- A map over a list succeeds with what each item gives, and only if every item gives something. -/
theorem mapM_eq_ok_iff {α β ε : Type} {f : α → Except ε β} {xs : List α} {ys : List β} :
    xs.mapM f = .ok ys ↔ List.Forall₂ (fun x y => f x = .ok y) xs ys := by
  induction xs generalizing ys with
  | nil =>
      rw [List.mapM_nil, List.forall₂_nil_left_iff]
      exact ⟨fun h => (Except.ok.inj h).symm, fun h => h ▸ rfl⟩
  | cons x xs ih =>
      rw [List.mapM_cons, List.forall₂_cons_left_iff, bind_eq_ok]
      constructor
      · rintro ⟨y, hy, hrest⟩
        obtain ⟨rest, hmap, heq⟩ := bind_eq_ok.mp hrest
        exact ⟨y, rest, hy, ih.mp hmap, (Except.ok.inj heq).symm⟩
      · rintro ⟨y, rest, hy, hrest, rfl⟩
        exact ⟨y, hy, by rw [ih.mpr hrest]; rfl⟩

theorem mapM_eq_some_iff {α β : Type} {f : α → Option β} {xs : List α} {ys : List β} :
    xs.mapM f = some ys ↔ List.Forall₂ (fun x y => f x = some y) xs ys := by
  induction xs generalizing ys with
  | nil => simp [eq_comm]
  | cons x xs ih =>
      simp only [List.mapM_cons, List.forall₂_cons_left_iff, Option.bind_eq_bind,
        Option.bind_eq_some_iff, ih, Option.pure_def, Option.some.injEq]
      constructor
      · rintro ⟨y, hy, rest, hrest, rfl⟩
        exact ⟨y, rest, hy, hrest, rfl⟩
      · rintro ⟨y, rest, hy, hrest, rfl⟩
        exact ⟨y, hy, rest, hrest, rfl⟩

/-- Relations that agree on the items of a list relate it to the same lists. -/
theorem forall₂_congr_mem {α β : Type} {R S : α → β → Prop} {xs : List α} {ys : List β}
    (h : ∀ x ∈ xs, ∀ y, R x y ↔ S x y) : List.Forall₂ R xs ys ↔ List.Forall₂ S xs ys := by
  constructor
  · intro hR
    exact ((List.forall₂_and_left xs ys).mpr ⟨h, hR⟩).imp fun _ y hxy => (hxy.1 y).mp hxy.2
  · intro hS
    exact ((List.forall₂_and_left xs ys).mpr ⟨h, hS⟩).imp fun _ y hxy => (hxy.1 y).mpr hxy.2

/-- What is related to the items of a list is related to one of them each. -/
theorem exists_mem_of_forall₂ {α β : Type} {R : α → β → Prop} {xs : List α} {ys : List β}
    (h : List.Forall₂ R xs ys) : ∀ y ∈ ys, ∃ x ∈ xs, R x y := by
  induction h with
  | nil => simp
  | cons hhead htail ih =>
      rw [List.forall_mem_cons]
      refine ⟨⟨_, List.mem_cons_self, hhead⟩, fun y hy => ?_⟩
      obtain ⟨x, hx, hxy⟩ := ih y hy
      exact ⟨x, List.mem_cons_of_mem _ hx, hxy⟩

/-- A list is related to some list if each of its items is related to something. -/
theorem exists_forall₂_iff {α β : Type} {R : α → β → Prop} {xs : List α} :
    (∃ ys, List.Forall₂ R xs ys) ↔ ∀ x ∈ xs, ∃ y, R x y := by
  constructor
  · rintro ⟨ys, hys⟩ x hx
    obtain ⟨y, -, hy⟩ := exists_mem_of_forall₂ hys.flip x hx
    exact ⟨y, hy⟩
  · intro h
    induction xs with
    | nil => exact ⟨[], .nil⟩
    | cons x xs ih =>
        obtain ⟨⟨y, hy⟩, hrest⟩ := List.forall_mem_cons.mp h
        obtain ⟨ys, hys⟩ := ih hrest
        exact ⟨y :: ys, .cons hy hys⟩

/-- A map over a list fails with what the first item gives that gives nothing else. -/
theorem exists_first_of_mapM_eq_error {α β ε : Type} {f : α → Except ε β} {xs : List α} {e : ε}
    (h : xs.mapM f = .error e) :
    ∃ before x after, xs = before ++ x :: after ∧ (∀ y ∈ before, ∃ b, f y = .ok b) ∧
      f x = .error e := by
  induction xs with
  | nil => cases h
  | cons x xs ih =>
      rw [List.mapM_cons] at h
      cases hx : f x with
      | error fault =>
          rw [hx] at h
          obtain rfl := Except.error.inj h
          exact ⟨[], x, xs, rfl, by simp, hx⟩
      | ok y =>
          rw [hx, ok_bind] at h
          cases hxs : xs.mapM f with
          | error fault =>
              rw [hxs] at h
              obtain rfl := Except.error.inj h
              obtain ⟨before, z, after, rfl, hbefore, hz⟩ := ih hxs
              exact ⟨x :: before, z, after, rfl,
                List.forall_mem_cons.mpr ⟨⟨y, hx⟩, hbefore⟩, hz⟩
          | ok ys => rw [hxs] at h; cases h

/-- A map over a list fails with what one of the items gives. -/
theorem exists_mem_of_mapM_eq_error {α β ε : Type} {f : α → Except ε β} {xs : List α} {e : ε}
    (h : xs.mapM f = .error e) : ∃ x ∈ xs, f x = .error e := by
  obtain ⟨before, x, after, rfl, -, hx⟩ := exists_first_of_mapM_eq_error h
  exact ⟨x, by simp, hx⟩

namespace Json.Draft

theorem ofValues_eq_map (items : List Json) : ofValues items = items.map ofValue := by
  induction items with
  | nil => rfl
  | cons item items ih => rw [ofValues, ih, List.map_cons]

theorem ofMembers_eq_map (members : List (String × Json)) :
    ofMembers members = members.map fun member => (some member.1, ofValue member.2) := by
  induction members with
  | nil => rfl
  | cons member members ih => rw [ofMembers, ofMember, ih, List.map_cons]

/-- What stands in a container. -/
def children : Draft → List Draft
  | array items _ => items
  | object members _ => members.map (·.2)
  | _ => []

end Json.Draft

namespace Binding

open Json (Draft Room)

/-- What binding a list does, with the position of an item as a number beside it. -/
theorem list_array {α : Type} (bind : Binder α) (room : Room) (items : List Draft) (closed : Bool) :
    list bind room (.array items closed) =
      enter room >>= fun inner =>
        items.zipIdx.mapM (fun entry => within (.item entry.2) (bind inner entry.1)) >>=
          closing closed := rfl

/-- A list of values binds item by item. -/
theorem list_ofValues {α : Type} {bind : Binder α} {items : List α} {toJson : α → Json}
    (h : ∀ item ∈ items, bind none (Draft.ofValue (toJson item)) = .ok item) :
    list bind none (Draft.ofValue (.array (items.map toJson))) = .ok items := by
  have hitems : (Draft.ofValues (items.map toJson)).zipIdx.mapM
      (fun entry => within (.item entry.2) (bind none entry.1)) = .ok items := by
    rw [Draft.ofValues_eq_map, List.map_map, List.zipIdx_map, List.mapM_map]
    rw [mapM_eq_ok_map (g := fun entry => entry.1)]
    · rw [List.zipIdx_map_fst]
    · intro entry hentry
      simp only [Function.comp_apply, Prod.map_fst, h entry.1 (List.fst_mem_of_mem_zipIdx hentry),
        within]
  have henter : enter none = .ok none := rfl
  rw [Draft.ofValue, list_array, henter, ok_bind, hitems]
  rfl

variable {ρ : Type} {parts : List (Part ρ)} {room : Room}

/-- Members with distinct names that all bind make a record, whatever their order. -/
theorem bindMembers_eq_foldl {write : ρ → String → ρ} {members : List (String × Json)}
    {seen : List String} {r : ρ} (hnodup : (members.map (·.1)).Nodup)
    (hunseen : ∀ member ∈ members, member.1 ∉ seen)
    (hparts : ∀ member ∈ members, ∃ part, parts.find? (·.answersTo member.1) = some part ∧
      part.name = member.1 ∧
      ∀ r, part.bind room (Draft.ofValue member.2) r = .ok (write r member.1)) :
    bindMembers parts room seen r (Draft.ofMembers members) =
      .ok ((members.map (·.1)).foldl write r) := by
  induction members generalizing seen r with
  | nil => rfl
  | cons member members ih =>
      obtain ⟨hnotin, hnodup⟩ := List.nodup_cons.mp hnodup
      obtain ⟨hfresh, hunseen⟩ := List.forall_mem_cons.mp hunseen
      obtain ⟨⟨part, hfind, hname, hbind⟩, hparts⟩ := List.forall_mem_cons.mp hparts
      have hunseen : ∀ other ∈ members, other.1 ∉ part.name :: seen := by
        intro other hother hmem
        rcases List.mem_cons.mp hmem with heq | hmem
        · exact hnotin (List.mem_map.mpr ⟨other, hother, heq.trans hname⟩)
        · exact hunseen other hother hmem
      have hrest := ih (r := write r member.1) hnodup hunseen hparts
      rw [Draft.ofMembers, Draft.ofMember, bindMembers, hfind]
      simp only [hname, if_neg hfresh, hbind, within]
      rw [hname] at hrest
      exact hrest

theorem within_eq_ok {β : Type} {step : Step} {bound : Bound β} {b : β} :
    within step bound = .ok b ↔ bound = .ok b := by
  cases bound <;> simp [within]

theorem ok_of_within {β : Type} {step : Step} {bound : Bound β} {b : β}
    (h : within step bound = .ok b) : bound = .ok b :=
  within_eq_ok.mp h

/-- A member of a record that binds is passed over, or has a part that was not named before. -/
theorem cases_of_bindMembers_cons {key : Option String} {d : Draft}
    {members : List (Option String × Draft)} {seen : List String} {r r' : ρ}
    (h : bindMembers parts room seen r ((key, d) :: members) = .ok r') :
    ∃ name, key = some name ∧
      ((parts.find? (·.answersTo name) = none ∧ bindMembers parts room seen r members = .ok r') ∨
        ∃ part next, parts.find? (·.answersTo name) = some part ∧ part.name ∉ seen ∧
          part.bind room d r = .ok next ∧
          bindMembers parts room (part.name :: seen) next members = .ok r') := by
  cases key with
  | none => cases h
  | some name =>
      refine ⟨name, rfl, ?_⟩
      rw [bindMembers] at h
      cases hfind : parts.find? (·.answersTo name) with
      | none =>
          simp only [hfind] at h
          split at h
          · exact .inl ⟨rfl, h⟩
          · cases h
      | some part =>
          simp only [hfind] at h
          split at h
          · cases h
          · next hunseen =>
            obtain ⟨next, hnext, hrest⟩ := bind_eq_ok.mp h
            exact .inr ⟨part, next, rfl, hunseen, ok_of_within hnext, hrest⟩

/-- Every member with a part is bound to it. -/
theorem bind_of_mem_bindMembers {part : Part ρ} {name : String} {d : Draft}
    (hfind : parts.find? (·.answersTo name) = some part)
    {members : List (Option String × Draft)} (hmember : (some name, d) ∈ members)
    {seen : List String} {r r' : ρ} (h : bindMembers parts room seen r members = .ok r') :
    ∃ before after, part.bind room d before = .ok after := by
  induction members generalizing seen r with
  | nil => cases hmember
  | cons member members ih =>
      obtain ⟨key, e⟩ := member
      obtain ⟨key, rfl, hcases⟩ := cases_of_bindMembers_cons h
      rcases List.mem_cons.mp hmember with heq | hlater
      · obtain ⟨hkey, rfl⟩ := Prod.mk.inj heq
        obtain rfl := Option.some.inj hkey
        rcases hcases with ⟨hnone, -⟩ | ⟨other, next, hother, -, hbind, -⟩
        · rw [hfind] at hnone
          cases hnone
        · obtain rfl : part = other := Option.some.inj (hfind.symm.trans hother)
          exact ⟨r, next, hbind⟩
      · rcases hcases with ⟨-, hrest⟩ | ⟨_, _, -, -, -, hrest⟩ <;> exact ih hlater hrest

/-! ### A property that all parts keep -/

section Keeping

variable {P : ρ → Prop} {D : Draft → Prop}

/-- A record that a part binds has a property if the record had it before and the draft is of some
kind. -/
def Part.KeepsOn (D : Draft → Prop) (P : ρ → Prop) (part : Part ρ) : Prop :=
  ∀ room d r r', D d → part.bind room d r = .ok r' → P r → P r'

/-- A record that a part binds has a property if the record had it before. -/
def Part.Keeps (P : ρ → Prop) (part : Part ρ) : Prop :=
  ∀ room d r r', part.bind room d r = .ok r' → P r → P r'

theorem Part.keepsOn_of {β : Type} {name : String} {secondName : Option String} {bind : Binder β}
    {put : β → ρ → ρ} (h : ∀ room d b, D d → bind room d = .ok b → ∀ r, P r → P (put b r)) :
    (Part.of name bind put secondName).KeepsOn D P := by
  intro room d r r' hd hbind hr
  simp only [Part.of] at hbind
  cases hbound : bind room d with
  | error flaw => rw [hbound] at hbind; cases hbind
  | ok b =>
      rw [hbound] at hbind
      obtain rfl := Except.ok.inj hbind
      exact h room d b hd hbound r hr

theorem Part.Keeps.keepsOn {part : Part ρ} (h : part.Keeps P) : part.KeepsOn (fun _ => True) P :=
  fun room d r r' _ => h room d r r'

theorem Part.keeps_of {β : Type} {name : String} {secondName : Option String} {bind : Binder β}
    {put : β → ρ → ρ} (h : ∀ room d b, bind room d = .ok b → ∀ r, P r → P (put b r)) :
    (Part.of name bind put secondName).Keeps P := by
  have hkeeps : (Part.of name bind put secondName).KeepsOn (fun _ => True) P :=
    Part.keepsOn_of fun room d b _ => h room d b
  exact fun room d r r' => hkeeps room d r r' trivial

theorem bindMembers_keepsOn (hparts : ∀ part ∈ parts, part.KeepsOn D P)
    {members : List (Option String × Draft)} (hmembers : ∀ member ∈ members, D member.2)
    {seen : List String} {r r' : ρ} (h : bindMembers parts room seen r members = .ok r')
    (hr : P r) : P r' := by
  induction members generalizing seen r with
  | nil =>
      obtain rfl : r = r' := Except.ok.inj h
      exact hr
  | cons member members ih =>
      obtain ⟨hmember, hmembers⟩ := List.forall_mem_cons.mp hmembers
      obtain ⟨name, -, ⟨-, hrest⟩ | ⟨part, next, hfind, -, hbind, hrest⟩⟩ :=
        cases_of_bindMembers_cons h
      · exact ih hmembers hrest hr
      · have hpart := hparts part (List.mem_of_find?_eq_some hfind)
        exact ih hmembers hrest (hpart room member.2 r next hmember hbind hr)

theorem bindItems_keepsOn (hparts : ∀ part ∈ parts, part.KeepsOn D P) {items rest : List Draft}
    (hitems : ∀ item ∈ items, D item) {index : Nat} {r r' : ρ}
    (h : bindItems room index r parts items = .ok (r', rest)) (hr : P r) : P r' := by
  induction parts generalizing index items r with
  | nil =>
      obtain ⟨rfl, -⟩ := Prod.mk.inj (Except.ok.inj h)
      exact hr
  | cons part parts ih =>
      cases items with
      | nil =>
          obtain ⟨rfl, -⟩ := Prod.mk.inj (Except.ok.inj h)
          exact hr
      | cons d items =>
          obtain ⟨hpart, hparts⟩ := List.forall_mem_cons.mp hparts
          obtain ⟨hd, hitems⟩ := List.forall_mem_cons.mp hitems
          rw [bindItems] at h
          obtain ⟨next, hnext, hrest⟩ := bind_eq_ok.mp h
          exact ih hparts hitems hrest (hpart room d r next hd (ok_of_within hnext) hr)

theorem bindItems_keeps (hparts : ∀ part ∈ parts, part.Keeps P) {items rest : List Draft}
    {index : Nat} {r r' : ρ} (h : bindItems room index r parts items = .ok (r', rest))
    (hr : P r) : P r' :=
  bindItems_keepsOn (fun part hpart => (hparts part hpart).keepsOn) (fun _ _ => trivial) h hr

theorem ok_of_closing {β : Type} {closed : Bool} {a b : β} (h : closing closed a = .ok b) :
    a = b := by
  cases closed with
  | false => cases h
  | true => exact Except.ok.inj h

/-- A record has the properties that its parts keep on what it is bound from, members or items. -/
theorem record_keepsOn {name : String} {blank r : ρ} {d : Draft}
    (hparts : ∀ part ∈ parts, part.KeepsOn D P) (hchildren : ∀ child ∈ d.children, D child)
    (hblank : P blank) (h : record name parts blank room d = .ok r) : P r := by
  cases d with
  | object members closed =>
      obtain ⟨inner, -, hbind⟩ := bind_eq_ok.mp h
      obtain ⟨bound, hbound, hclosing⟩ := bind_eq_ok.mp hbind
      obtain rfl := ok_of_closing hclosing
      exact bindMembers_keepsOn hparts (List.forall_mem_map.mp hchildren) hbound hblank
  | array items closed =>
      obtain ⟨inner, -, hbind⟩ := bind_eq_ok.mp h
      obtain ⟨⟨bound, rest⟩, hbound, hrest⟩ := bind_eq_ok.mp hbind
      have hkept : P bound := bindItems_keepsOn hparts hchildren hbound hblank
      simp only at hrest
      split at hrest
      · obtain rfl := ok_of_closing hrest
        exact hkept
      · split at hrest <;> cases hrest
  | null | boolean b | number n | string s | unreadable | broken => cases h

/-- A record has the properties that its parts keep. -/
theorem record_keeps {name : String} {blank r : ρ} {d : Draft}
    (hparts : ∀ part ∈ parts, part.Keeps P) (hblank : P blank)
    (h : record name parts blank room d = .ok r) : P r :=
  record_keepsOn (fun part hpart => (hparts part hpart).keepsOn) (fun _ _ => trivial) hblank h

/-- What every item that is bound has, the items of a list have. -/
theorem of_mem_list {α : Type} {bind : Binder α} {Q : α → Prop}
    (hbind : ∀ room d a, D d → bind room d = .ok a → Q a) {d : Draft} {items : List α}
    (hchildren : ∀ child ∈ d.children, D child) (h : list bind room d = .ok items) :
    ∀ a ∈ items, Q a := by
  cases d with
  | array drafts closed =>
      obtain ⟨inner, -, hrest⟩ := bind_eq_ok.mp h
      obtain ⟨bound, hbound, hclosing⟩ := bind_eq_ok.mp hrest
      obtain rfl := ok_of_closing hclosing
      have hread := mapM_eq_ok_iff.mp hbound
      intro a ha
      obtain ⟨entry, hentry, hitem⟩ := exists_mem_of_forall₂ hread a ha
      exact hbind inner entry.1 a (hchildren _ (List.fst_mem_of_mem_zipIdx hentry))
        (ok_of_within hitem)
  | null | boolean b | number n | string s | object members closed | unreadable | broken => cases h

end Keeping

/-! ### A field that one part writes -/

section Field

variable {α : Type} {field : ρ → α} {name : String}

/-- The parts with other names leave a field alone. -/
def Spares (parts : List (Part ρ)) (field : ρ → α) (name : String) : Prop :=
  ∀ part ∈ parts, part.name ≠ name → ∀ room d r r', part.bind room d r = .ok r' →
    field r' = field r

theorem Part.of_spares {β : Type} {partName : String} {secondName : Option String}
    {bind : Binder β} {put : β → ρ → ρ} {d : Draft} {r r' : ρ}
    (h : (Part.of partName bind put secondName).bind room d r = .ok r')
    (hput : ∀ b r, field (put b r) = field r) : field r' = field r := by
  simp only [Part.of] at h
  cases hbind : bind room d with
  | error flaw => rw [hbind] at h; cases h
  | ok b =>
      rw [hbind] at h
      obtain rfl := Except.ok.inj h
      exact hput b r

theorem bindMembers_spares (hspares : Spares parts field name)
    {members : List (Option String × Draft)} {seen : List String} {r r' : ρ} (hseen : name ∈ seen)
    (h : bindMembers parts room seen r members = .ok r') : field r' = field r := by
  induction members generalizing seen r with
  | nil =>
      obtain rfl : r = r' := Except.ok.inj h
      rfl
  | cons member members ih =>
      obtain ⟨key, -, ⟨-, hrest⟩ | ⟨part, next, hfind, hunseen, hbind, hrest⟩⟩ :=
        cases_of_bindMembers_cons h
      · exact ih hseen hrest
      · have hne : part.name ≠ name := fun heq => hunseen (heq ▸ hseen)
        have hmem := List.mem_of_find?_eq_some hfind
        rw [ih (List.mem_cons_of_mem _ hseen) hrest]
        exact hspares part hmem hne room member.2 r next hbind

/-- A field has the value of the first member that names it. -/
theorem bindMembers_field (hspares : Spares parts field name)
    (hnames : ∀ key part, parts.find? (·.answersTo key) = some part → part.name = name →
      key = name) {d : Draft} {a : α}
    (hbinds : ∃ part, parts.find? (·.answersTo name) = some part ∧ part.name = name ∧
      ∀ r r', part.bind room d r = .ok r' → field r' = a)
    {members : List (Option String × Draft)} {seen : List String} {r r' : ρ}
    (hunseen : name ∉ seen) (hlookup : members.lookup (some name) = some d)
    (h : bindMembers parts room seen r members = .ok r') : field r' = a := by
  induction members generalizing seen r with
  | nil => cases hlookup
  | cons member members ih =>
      obtain ⟨key, e⟩ := member
      obtain ⟨key, rfl, hcases⟩ := cases_of_bindMembers_cons h
      by_cases hkey : key = name
      · subst hkey
        obtain rfl : e = d := by simpa using hlookup
        obtain ⟨part, hfind, hname, hfield⟩ := hbinds
        rcases hcases with ⟨hnone, -⟩ | ⟨other, next, hother, -, hbind, hrest⟩
        · rw [hfind] at hnone
          cases hnone
        · obtain rfl : part = other := Option.some.inj (hfind.symm.trans hother)
          rw [hname] at hrest
          -- From here on the name is among those seen, so that no other part can write the field.
          rw [bindMembers_spares hspares List.mem_cons_self hrest]
          exact hfield r next hbind
      · have htail : members.lookup (some name) = some d := by
          have hne : (some name == some key) = false := by simpa using Ne.symm hkey
          rwa [List.lookup_cons, hne] at hlookup
        rcases hcases with ⟨-, hrest⟩ | ⟨part, next, hfind, -, -, hrest⟩
        · exact ih hunseen htail hrest
        · refine ih (fun hmem => ?_) htail hrest
          rcases List.mem_cons.mp hmem with heq | hmem
          · exact hkey (hnames key part hfind heq.symm)
          · exact hunseen hmem

/-- A field has what a part writes from a draft, or stays blank where there is none. -/
def Part.Fills (part : Part ρ) (field : ρ → α) (room : Room) (blank : α) : Option Draft → α → Prop
  | some d, a => ∃ before after, part.bind room d before = .ok after ∧ a = field after
  | none, a => a = blank

/-- The first part is bound to the first member that it answers to, if there is one. -/
theorem bindMembers_head (part : Part ρ) (hspares : Spares parts field part.name)
    (hother : ∀ other ∈ parts, other.name ≠ part.name) {members : List (Option String × Draft)}
    {seen : List String} {r r' : ρ} (hunseen : part.name ∉ seen)
    (h : bindMembers (part :: parts) room seen r members = .ok r') :
    part.Fills field room (field r)
      ((members.find? (·.1.any part.answersTo)).map (·.2)) (field r') := by
  have hall : Spares (part :: parts) field part.name :=
    List.forall_mem_cons.mpr ⟨fun hne => absurd rfl hne, hspares⟩
  induction members generalizing seen r with
  | nil =>
      obtain rfl : r = r' := Except.ok.inj h
      rfl
  | cons member members ih =>
      obtain ⟨key, d⟩ := member
      obtain ⟨key, rfl, hcases⟩ := cases_of_bindMembers_cons h
      cases hanswers : part.answersTo key with
      | true =>
          have hfind : (part :: parts).find? (·.answersTo key) = some part :=
            List.find?_cons_of_pos hanswers
          rw [List.find?_cons_of_pos (by exact hanswers)]
          rcases hcases with ⟨hnone, -⟩ | ⟨bound, next, hbound, -, hbind, hrest⟩
          · rw [hfind] at hnone
            cases hnone
          · obtain rfl : part = bound := Option.some.inj (hfind.symm.trans hbound)
            exact ⟨r, next, hbind, bindMembers_spares hall List.mem_cons_self hrest⟩
      | false =>
          have hskip : ¬part.answersTo key = true := Bool.eq_false_iff.mp hanswers
          rw [List.find?_cons_of_neg (by exact hskip)]
          rcases hcases with ⟨-, hrest⟩ | ⟨other, next, hfind, -, hbind, hrest⟩
          · exact ih hunseen hrest
          · rw [List.find?_cons_of_neg (by exact hskip)] at hfind
            have hmem := List.mem_of_find?_eq_some hfind
            have hunseen' : part.name ∉ other.name :: seen := by
              rw [List.mem_cons, not_or]
              exact ⟨(hother other hmem).symm, hunseen⟩
            rw [← hspares other hmem (hother other hmem) room d r next hbind]
            exact ih hunseen' hrest

theorem bindItems_spares (hspares : Spares parts field name)
    (hother : ∀ other ∈ parts, other.name ≠ name) {items rest : List Draft} {index : Nat} {r r' : ρ}
    (h : bindItems room index r parts items = .ok (r', rest)) : field r' = field r := by
  refine bindItems_keeps (P := fun found => field found = field r) (fun part hpart => ?_) h rfl
  intro room d before after hbind hbefore
  rw [hspares part hpart (hother part hpart) room d before after hbind, hbefore]

/-- The first part is bound to the first item, if there is one. -/
theorem bindItems_head (part : Part ρ) (hspares : Spares parts field part.name)
    (hother : ∀ other ∈ parts, other.name ≠ part.name) {items rest : List Draft} {index : Nat}
    {r r' : ρ} (h : bindItems room index r (part :: parts) items = .ok (r', rest)) :
    part.Fills field room (field r) items.head? (field r') := by
  cases items with
  | nil =>
      obtain ⟨rfl, -⟩ := Prod.mk.inj (Except.ok.inj h)
      rfl
  | cons d items =>
      rw [bindItems] at h
      obtain ⟨next, hnext, hrest⟩ := bind_eq_ok.mp h
      exact ⟨r, next, ok_of_within hnext, bindItems_spares hspares hother hrest⟩

end Field

end Binding

end OrderDesk
