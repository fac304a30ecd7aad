import OrderDesk.Order.Binding
import OrderDesk.Order.Total
import OrderDesk.Proofs.Binding

/-! # Members that no part has

A member whose name no part of a record answers to is passed over if its value is whole. What is
bound is therefore a function of the other members in their order, so two requests that differ in
strangers only are bound alike: they fail with one flaw, or they make one order, whose identity,
total and times come from the service.
-/

namespace OrderDesk

namespace Json.Draft

mutual

/-- A value has no place where a text goes wrong. -/
theorem whole_ofValue (v : Json) : (ofValue v).whole = true := by
  match v with
  | .null | .boolean b | .number n | .string s => rfl
  | .array items => rw [ofValue, whole, wholeItems_ofValues items, Bool.and_true]
  | .object members => rw [ofValue, whole, wholeMembers_ofMembers members, Bool.and_true]

theorem wholeItems_ofValues (items : List Json) : wholeItems (ofValues items) = true := by
  match items with
  | [] => rfl
  | item :: items =>
      rw [ofValues, wholeItems, whole_ofValue item, wholeItems_ofValues items, Bool.and_true]

theorem wholeMembers_ofMembers (members : List (String × Json)) :
    wholeMembers (ofMembers members) = true := by
  match members with
  | [] => rfl
  | member :: members =>
      rw [ofMembers, wholeMembers, wholeMember_ofMember member, wholeMembers_ofMembers members,
        Bool.and_true]

theorem wholeMember_ofMember (member : String × Json) : wholeMember (ofMember member) = true := by
  match member with
  | (name, v) => exact whole_ofValue v

end

end Json.Draft

namespace Binding

open Json (Draft Room)

/-! ### Strangers -/

/-- The members whose names are among some. -/
def named (names : List String) (members : List (Option String × Draft)) :
    List (Option String × Draft) :=
  members.filter fun member => member.1.any (· ∈ names)

/-- All members have names, and under other names than some the values are whole. -/
def Passable (names : List String) (members : List (Option String × Draft)) : Prop :=
  ∀ member ∈ members, ∃ name, member.1 = some name ∧ (name ∈ names ∨ member.2.whole = true)

/-- Two objects differ in strangers only: their members with some names have the same names in the
same order, and related values. -/
structure AgreeOn (names : List String) (R : String → Draft → Draft → Prop)
    (members others : List (Option String × Draft)) : Prop where
  passable : Passable names members
  passable_other : Passable names others
  same : List.Forall₂ (fun member other => ∃ name ∈ names,
    member.1 = some name ∧ other.1 = some name ∧ R name member.2 other.2)
    (named names members) (named names others)

/-- All members of a value may be passed over. -/
theorem passable_ofMembers (names : List String) (members : List (String × Json)) :
    Passable names (Draft.ofMembers members) := by
  rw [Draft.ofMembers_eq_map]
  exact List.forall_mem_map.mpr fun member _ =>
    ⟨member.1, rfl, .inr (Draft.whole_ofValue member.2)⟩

section Records

variable {ρ : Type} {parts : List (Part ρ)} {room : Room} {R : String → Draft → Draft → Prop}
  {members others : List (Option String × Draft)} {name : String}

/-- The names that a part answers to. -/
def Part.names (part : Part ρ) : List String := part.name :: part.secondName.toList

theorem Part.answersTo_iff {part : Part ρ} : part.answersTo name = true ↔ name ∈ part.names := by
  rw [Part.answersTo, Bool.or_eq_true, decide_eq_true_iff, decide_eq_true_iff, Part.names,
    List.mem_cons, Option.mem_toList, @eq_comm _ part.name]

theorem find?_part_eq_none_iff :
    parts.find? (·.answersTo name) = none ↔ name ∉ parts.flatMap Part.names := by
  simp [Part.answersTo_iff]

/-- Strangers do not change what is bound. -/
theorem bindMembers_named (hmembers : Passable (parts.flatMap Part.names) members)
    (seen : List String) (r : ρ) :
    bindMembers parts room seen r (named (parts.flatMap Part.names) members) =
      bindMembers parts room seen r members := by
  generalize hnames : parts.flatMap Part.names = names at hmembers ⊢
  induction members generalizing seen r with
  | nil => rfl
  | cons member members ih =>
      obtain ⟨key, d⟩ := member
      obtain ⟨⟨name, hkey, hwhole⟩, hrest⟩ := List.forall_mem_cons.mp hmembers
      obtain rfl : key = some name := hkey
      by_cases hname : name ∈ names
      · have hkept : named names ((some name, d) :: members) =
            (some name, d) :: named names members :=
          List.filter_cons_of_pos (by simpa using hname)
        rw [hkept, bindMembers, bindMembers]
        simp only [fun seen r => ih seen r hrest]
      · have hdropped : named names ((some name, d) :: members) = named names members :=
          List.filter_cons_of_neg (by simpa using hname)
        have hnone : parts.find? (·.answersTo name) = none :=
          find?_part_eq_none_iff.mpr (hnames ▸ hname)
        rw [hdropped, ih seen r hrest, bindMembers, hnone]
        exact (if_pos (hwhole.resolve_left hname)).symm

/-- Members that their parts bind alike make one record, or fail with one flaw. -/
theorem bindMembers_congr
    (hparts : ∀ name part, parts.find? (·.answersTo name) = some part →
      ∀ d e, R name d e → ∀ r, part.bind room d r = part.bind room e r)
    (h : List.Forall₂ (fun member other => ∃ name ∈ parts.flatMap Part.names,
      member.1 = some name ∧ other.1 = some name ∧ R name member.2 other.2) members others)
    (seen : List String) (r : ρ) :
    bindMembers parts room seen r members = bindMembers parts room seen r others := by
  induction h generalizing seen r with
  | nil => rfl
  | @cons member other members others hsame _ ih =>
      obtain ⟨key, d⟩ := member
      obtain ⟨otherKey, e⟩ := other
      obtain ⟨name, hname, hkey, hother, hrelated⟩ := hsame
      obtain rfl : key = some name := hkey
      obtain rfl : otherKey = some name := hother
      rw [bindMembers, bindMembers]
      cases hfind : parts.find? (·.answersTo name) with
      | none => exact absurd hname (find?_part_eq_none_iff.mp hfind)
      | some part => simp only [hparts name part hfind d e hrelated, ih]

/-- Objects that differ in strangers only make one record, or fail with one flaw. -/
theorem record_congr {recordName : String} {blank : ρ}
    (hparts : ∀ room name part, parts.find? (·.answersTo name) = some part →
      ∀ d e, R name d e → ∀ r, part.bind room d r = part.bind room e r)
    (h : AgreeOn (parts.flatMap Part.names) R members others) (closed : Bool) :
    record recordName parts blank room (.object members closed) =
      record recordName parts blank room (.object others closed) := by
  have hmembers : ∀ inner, bindMembers parts inner [] blank members =
      bindMembers parts inner [] blank others := by
    intro inner
    rw [← bindMembers_named h.passable, ← bindMembers_named h.passable_other]
    exact bindMembers_congr (hparts inner) h.same [] blank
  simp only [record, hmembers]

end Records

/-- Items that are bound alike make one list, or fail with one flaw. -/
theorem list_congr {α : Type} {bind : Binder α} (room : Room) {items others : List Draft}
    (h : List.Forall₂ (fun d e => ∀ room, bind room d = bind room e) items others)
    (closed : Bool) :
    list bind room (.array items closed) = list bind room (.array others closed) := by
  have hitems : ∀ inner start,
      (items.zipIdx start).mapM (fun entry => within (.item entry.2) (bind inner entry.1)) =
        (others.zipIdx start).mapM fun entry => within (.item entry.2) (bind inner entry.1) := by
    intro inner
    induction h with
    | nil => exact fun _ => rfl
    | cons hsame _ ih =>
        intro start
        rw [List.zipIdx_cons, List.zipIdx_cons, List.mapM_cons, List.mapM_cons]
        simp only [hsame inner, ih]
  simp only [list_array, hitems]

end Binding

open Json (Draft Room)
open Binding (AgreeOn Bound)

/-! ### Line items -/

/-- Two drafts that stand as items are equal, or they are objects that differ in strangers only. -/
inductive SameItem : Draft → Draft → Prop
  | refl (d : Draft) : SameItem d d
  | object {members others : List (Option String × Draft)}
      (h : AgreeOn ["name", "quantity", "unitPrice", "price"] (fun _ => Eq) members others) :
      SameItem (.object members true) (.object others true)

theorem SameItem.bind_eq {d e : Draft} (h : SameItem d e) (room : Room) :
    LineItem.bind room d = LineItem.bind room e := by
  cases h with
  | refl => rfl
  | object hmembers =>
      have hparts : ∀ room name part, LineItem.parts.find? (·.answersTo name) = some part →
          ∀ d e, d = e → ∀ r, part.bind room d r = part.bind room e r :=
        fun _ _ _ _ _ _ heq _ => heq ▸ rfl
      exact Binding.record_congr hparts hmembers true

/-! ### Inputs -/

/-- Two values under one name are equal, or they are lists of items that differ in strangers only,
where the name is one of those of line items. -/
inductive SameValue (name : String) : Draft → Draft → Prop
  | refl (d : Draft) : SameValue name d d
  | items {items others : List Draft} (hname : name = "lineItems" ∨ name = "product")
      (h : List.Forall₂ SameItem items others) :
      SameValue name (.array items true) (.array others true)

/-- Two objects that stand as inputs differ in strangers only. -/
inductive SameInput : Draft → Draft → Prop
  | object {members others : List (Option String × Draft)}
      (h : AgreeOn ["userId", "status", "city", "addressDetail", "lineItems", "product"]
        SameValue members others) :
      SameInput (.object members true) (.object others true)

theorem SameValue.bind_eq {room : Room} {name : String} {part : Binding.Part OrderInput}
    {d e : Draft} (h : SameValue name d e)
    (hfind : OrderInput.parts.find? (·.answersTo name) = some part) (input : OrderInput) :
    part.bind room d input = part.bind room e input := by
  cases h with
  | refl => rfl
  | items hname hitems =>
      -- the one part for line items answers to both of their names
      obtain rfl : Binding.Part.of "lineItems" (Binding.list LineItem.bind)
          (fun lineItems r => { r with lineItems }) (some "product") = part := by
        rcases hname with rfl | rfl <;> exact Option.some.inj hfind
      have hlist := Binding.list_congr room
        (hitems.imp fun _ _ hsame (room : Room) => hsame.bind_eq room) true
      simp only [Binding.Part.of, hlist]

theorem SameInput.bind_eq {d e : Draft} (h : SameInput d e) (room : Room) :
    OrderInput.bind room d = OrderInput.bind room e := by
  cases h with
  | object hmembers =>
      have hparts : ∀ room name part, OrderInput.parts.find? (·.answersTo name) = some part →
          ∀ d e, SameValue name d e → ∀ r, part.bind room d r = part.bind room e r :=
        fun _ _ _ hfind _ _ hsame r => hsame.bind_eq hfind r
      exact Binding.record_congr hparts hmembers true

/-! ### Orders -/

/-- Two bound inputs lead to the same end when orders are made of them at one time: to one error,
or to orders that differ in nothing but their identity, with the times and the total of the
service. -/
def MadeAlike (bound otherBound : Bound OrderInput) (id otherId : String)
    (now : Calendar.Instant) : Prop :=
  (∃ flaw, bound = .error flaw ∧ otherBound = .error flaw) ∨
    ∃ input, bound = .ok input ∧ otherBound = .ok input ∧
      ((∃ fault, Order.make input id now = .error fault ∧
          Order.make input otherId now = .error fault) ∨
        ∃ o : Order, Order.make input id now = .ok { o with id } ∧
          Order.make input otherId now = .ok { o with id := otherId } ∧
          o.createdAt = some now ∧ o.updatedAt = some now ∧
          orderTotal input.lineItems = .ok o.total)

theorem madeAlike_self (bound : Bound OrderInput) (id otherId : String) (now : Calendar.Instant) :
    MadeAlike bound bound id otherId now := by
  cases bound with
  | error flaw => exact .inl ⟨flaw, rfl, rfl⟩
  | ok input =>
      refine .inr ⟨input, rfl, rfl, ?_⟩
      unfold Order.make
      cases negativePrices input.lineItems with
      | cons position positions => exact .inl ⟨_, rfl, rfl⟩
      | nil =>
          cases htotal : orderTotal input.lineItems with
          | error fault => exact .inl ⟨_, rfl, rfl⟩
          | ok total =>
              let o : Order :=
                { input with total, createdAt := some now, updatedAt := some now }
              exact .inr ⟨o, rfl, rfl, rfl, rfl, rfl⟩

/-- A caller has no say in what the service assigns: two requests that differ in strangers only, be
they values or texts, are bound alike, and the same becomes of them. -/
theorem orders_ignore_strangers (id otherId : String) (now : Calendar.Instant) :
    (∀ v w : Json, SameInput (.ofValue v) (.ofValue w) →
      MadeAlike (Binding.ofValue OrderInput.bind v) (Binding.ofValue OrderInput.bind w) id otherId
        now) ∧
    ∀ text other : String,
      SameInput (Json.draft text).root (Json.draft other).root →
      (Json.draft text).ended = (Json.draft other).ended →
      MadeAlike (Binding.ofText OrderInput.bind text) (Binding.ofText OrderInput.bind other) id
        otherId now := by
  constructor
  · intro v w h
    rw [Binding.ofValue, Binding.ofValue, h.bind_eq none]
    exact madeAlike_self _ id otherId now
  · intro text other h hended
    simp only [Binding.ofText, h.bind_eq Json.textRoom, hended]
    exact madeAlike_self _ id otherId now

/-- A request with a total, an identity and a discount of its own makes the order that is made
without them. -/
theorem orders_ignore_strangers_discount :
    let tea : List (String × Json) := [("name", .string "Tea"), ("quantity", .ofNat 3)]
    let price : List (String × Json) := [("price", .ofNat 2)]
    let discount : List (String × Json) := [("discount", .array [.ofNat 1])]
    let plain : Json := .object
      [("status", .string "NEW"), ("product", .array [.object (tea ++ price)])]
    let greedy : Json := .object
      [("total", .ofNat 0), ("status", .string "NEW"),
        ("product", .array [.object (tea ++ discount ++ price)]), ("id", .string "mine")]
    let now : Calendar.Instant := { seconds := 1700000000, nanos := 0 }
    MadeAlike (Binding.ofValue OrderInput.bind plain) (Binding.ofValue OrderInput.bind greedy) "a"
        "b" now ∧
      Binding.ofValue OrderInput.bind greedy =
        .ok { status := "NEW", lineItems := [⟨"Tea", 3, .ofNat 2⟩] } := by
  intro tea price discount plain greedy now
  have hitem : SameItem (.ofValue (.object (tea ++ price)))
      (.ofValue (.object (tea ++ discount ++ price))) :=
    .object
      { passable := Binding.passable_ofMembers _ _
        passable_other := Binding.passable_ofMembers _ _
        same := .cons ⟨"name", by decide, rfl, rfl, rfl⟩
          (.cons ⟨"quantity", by decide, rfl, rfl, rfl⟩
            (.cons ⟨"price", by decide, rfl, rfl, rfl⟩ .nil)) }
  have hsame : SameInput (.ofValue plain) (.ofValue greedy) :=
    .object
      { passable := Binding.passable_ofMembers _ _
        passable_other := Binding.passable_ofMembers _ _
        same := .cons ⟨"status", by decide, rfl, rfl, .refl _⟩
          (.cons ⟨"product", by decide, rfl, rfl, .items (.inr rfl) (.cons hitem .nil)⟩ .nil) }
  exact ⟨(orders_ignore_strangers "a" "b" now).1 plain greedy hsame, rfl⟩

end OrderDesk
