import Mathlib.Tactic.Common
import OrderDesk.Proofs.Acceptance
import OrderDesk.Proofs.Hits

/-! # Responses as a whole

A response is read as a whole or not at all, and so are documents. Of hits that cannot be read, the
first one is named. A source may be delivered as a text that spells it, and is read like the value
then, with one exception: only a value has to be an object, and an array binds to the parts of an
order one by one.
-/

namespace OrderDesk

/-- An item may be changed in either of two ways that relate it alike. -/
theorem forall₂_modify_congr {α β : Type} {R : α → β → Prop} {f g : α → α}
    (h : ∀ x y, R (f x) y ↔ R (g x) y) {xs : List α} {ys : List β} {i : Nat} :
    List.Forall₂ R (xs.modify i f) ys ↔ List.Forall₂ R (xs.modify i g) ys := by
  induction xs generalizing i ys with
  | nil => simp
  | cons x xs ih =>
      cases i with
      | zero => simp only [List.modify_zero_cons, List.forall₂_cons_left_iff, h]
      | succ i => simp only [List.modify_succ_cons, List.forall₂_cons_left_iff, ih]

/-- All items have a property after one has changed if that one has it and all others do. -/
theorem forall_mem_modify {α : Type} {P : α → Prop} {f : α → α} {xs : List α} {i : Nat} {x : α}
    (hx : xs[i]? = some x) :
    (∀ y ∈ xs.modify i f, P y) ↔ P (f x) ∧ ∀ j y, i ≠ j → xs[j]? = some y → P y := by
  constructor
  · intro h
    refine ⟨h _ (List.mem_of_getElem? (i := i) ?_), fun j y hne hy => h y ?_⟩
    · simp [hx]
    · exact List.mem_of_getElem? (i := j) (by simp [hne, hy])
  · rintro ⟨hchanged, hothers⟩ y hy
    obtain ⟨j, hj⟩ := List.mem_iff_getElem?.mp hy
    by_cases hne : i = j
    · subst hne
      obtain rfl : f x = y := by simpa [hx] using hj
      exact hchanged
    · exact hothers j y hne (by simpa [List.getElem?_modify, hne] using hj)

namespace Search

/-! ### Hits that deliver an order -/

/-- A source conveys an order as an object, or as a text that spells a value. -/
inductive Conveys : Json → Order → Prop
  | object {members : List (String × Json)} {o : Order}
      (hbind : Binding.ofValue Order.bind (.object members) = .ok o) :
      Conveys (.object members) o
  | text {text : String} {v : Json} {o : Order} (hparse : Json.parse? text = some v)
      (hbind : Binding.ofValue Order.bind v = .ok o) : Conveys (.string text) o

/-- A hit delivers the order that its source conveys. -/
def Delivers (hit : Json) (o : Order) : Prop :=
  ∃ source, hit.get? "_source" = some source ∧ Conveys source o

theorem order_eq_ok_iff (position : Nat) {hit : Json} {o : Order} :
    order position hit = .ok o ↔ Delivers hit o := by
  rw [order, bind_eq_ok]
  simp only [mapError_eq_ok, Delivers]
  rw [source]
  constructor
  · rintro ⟨v, hsource, hbind⟩
    split at hsource
    · next text hget =>
      split at hsource
      · next w hparse =>
        cases hsource
        exact ⟨_, hget, .text hparse hbind⟩
      · cases hsource
    · next members hget =>
      cases hsource
      exact ⟨_, hget, .object hbind⟩
    · cases hsource
    · cases hsource
  · rintro ⟨source, hget, hconveys⟩
    cases hconveys with
    | object hbind => exact ⟨_, by simp only [hget], hbind⟩
    | text hparse hbind => exact ⟨_, by simp only [hget, hparse], hbind⟩

theorem shows_iff_delivers {hit : Json} {o : Order} : Shows hit o ↔ Delivers hit o :=
  shows_iff.trans (order_eq_ok_iff 0)

/-! ### Reading as a whole -/

/-- A response lists hits, and gives no exact total above their number. -/
structure Lists (response : Json) (hits : List Json) : Prop where
  hits_eq : response.follow? ["hits", "hits"] = some (.array hits)
  /-- A total is exact unless its relation is named otherwise. -/
  total_le : ∀ total,
    response.follow? ["hits", "total", "value"] = some (.number (.natural total)) →
      (∀ relation, response.follow? ["hits", "total", "relation"] = some (.string relation) →
        relation = "eq") →
      total ≤ hits.length

theorem hits?_eq_some {response : Json} {hits : List Json} :
    hits? response = some hits ↔ response.follow? ["hits", "hits"] = some (.array hits) := by
  rw [hits?, Option.bind_eq_some_iff]
  constructor
  · rintro ⟨v, hv, hitems⟩
    cases v with
    | array items =>
        obtain rfl := Option.some.inj hitems
        exact hv
    | _ => cases hitems
  · exact fun h => ⟨_, h, rfl⟩

theorem mem_exactTotal? {response : Json} {total : Nat} :
    total ∈ exactTotal? response ↔
      response.follow? ["hits", "total", "value"] = some (.number (.natural total)) ∧
        ∀ relation, response.follow? ["hits", "total", "relation"] = some (.string relation) →
          relation = "eq" := by
  have hrelation :
      ((response.follow? ["hits", "total", "relation"]).bind Json.asString?).getD "eq" = "eq" ↔
        ∀ relation, response.follow? ["hits", "total", "relation"] = some (.string relation) →
          relation = "eq" := by
    cases response.follow? ["hits", "total", "relation"] with
    | none => simp
    | some v => cases v <;> simp [Json.asString?]
  have hvalue : (response.follow? ["hits", "total", "value"]).bind Json.asNat? = some total ↔
      response.follow? ["hits", "total", "value"] = some (.number (.natural total)) := by
    cases response.follow? ["hits", "total", "value"] with
    | none => simp
    | some v =>
        cases v with
        | number n => cases n <;> simp [Json.asNat?, Json.Number.toNat?]
        | _ => simp [Json.asNat?]
  rw [exactTotal?, Option.mem_def, ← hrelation, ← hvalue]
  split
  · next heq => simp [heq]
  · next hne => simp [hne]

theorem lists_iff {response : Json} {hits : List Json} :
    Lists response hits ↔
      hits? response = some hits ∧ ∀ total ∈ exactTotal? response, total ≤ hits.length := by
  simp only [hits?_eq_some, mem_exactTotal?]
  constructor
  · exact fun h => ⟨h.hits_eq, fun total htotal => h.total_le total htotal.1 htotal.2⟩
  · exact fun h => ⟨h.1, fun total hvalue hrelation => h.2 total ⟨hvalue, hrelation⟩⟩

/-- The hits of a response that lists them all are read one by one. -/
theorem hitOrders_of_lists {response : Json} {hits : List Json} (h : Lists response hits) :
    hitOrders response = hits.zipIdx.mapM fun entry => order entry.2 entry.1 := by
  obtain ⟨hhits, htotal⟩ := lists_iff.mp h
  rw [hitOrders]
  simp only [hhits]
  cases hexact : exactTotal? response with
  | none => rfl
  | some total => exact if_neg (Nat.not_lt_of_le (htotal total hexact))

/-- A response is read if it lists hits and each of them delivers an order. -/
theorem orders_eq_ok {response : Json} {os : List Order} :
    orders response = .ok os ↔
      ∃ hits, Lists response hits ∧ List.Forall₂ Delivers hits os := by
  have hshows : Shows = Delivers := by
    funext hit o
    exact propext shows_iff_delivers
  simp only [lists_iff, ← hshows]
  cases hhits : hits? response with
  | none =>
      have hfailed : orders response = .error (.undecodable .index HitFault.noHits.message) := by
        rw [orders, hitOrders, hhits]
        rfl
      simp [hfailed]
  | some hits => simp [orders_eq_ok_iff hhits, and_assoc]

/-- A message names the hit at a position, and no digit follows on the number. -/
def Names (message : String) (position : Nat) : Prop :=
  ∃ said, message = "hit " ++ toString position ++ said ∧
    ∀ c ∈ said.toList.head?, c.isDigit = false

/-- A message names one hit at most. -/
theorem Names.unique {message : String} {position other : Nat} (h : Names message position)
    (hother : Names message other) : position = other := by
  -- The number is what the digits after the first four characters spell.
  suffices hread : ∀ n, Names message n →
      n = Nat.ofDigitChars 10 ((message.toList.drop 4).takeWhile Char.isDigit) 0 from
    (hread position h).trans (hread other hother).symm
  rintro n ⟨said, rfl, hsaid⟩
  have hdigits : ∀ c ∈ Nat.toDigits 10 n, c.isDigit = true := 
    fun c hc => Nat.isDigit_of_mem_toDigits (by decide) (by decide) hc
  have hrest : said.toList.takeWhile Char.isDigit = [] := by
    cases hsaidList : said.toList with
    | nil => rfl
    | cons c cs =>
        have hc : c.isDigit = false := hsaid c (by rw [hsaidList]; rfl)
        exact List.takeWhile_cons_of_neg (by simp [hc])
  have hdrop : ("hit " ++ toString n ++ said).toList.drop 4 =
      Nat.toDigits 10 n ++ said.toList := by
    simp [Nat.repr_eq_ofList_toDigits]
  rw [hdrop, List.takeWhile_append_of_pos hdigits, hrest, List.append_nil,
    Nat.ofDigitChars_ten_toDigits]

/-- A hit fails for want of a source, for the kind of it, or for what it spells. -/
theorem cases_of_order_eq_error {hit : Json} {position : Nat} {fault : HitFault}
    (h : order position hit = .error fault) :
    fault = .noSource position ∨ (∃ v, fault = .wrongSource position v) ∨
      ∃ flaw, fault = .noOrder position flaw := by
  rw [order] at h
  cases hsource : source position hit with
  | error other =>
      rw [hsource] at h
      obtain rfl := Except.error.inj h
      rw [source] at hsource
      split at hsource
      · split at hsource
        · cases hsource
        · exact .inr (.inr ⟨_, (Except.error.inj hsource).symm⟩)
      · cases hsource
      · exact .inr (.inl ⟨_, (Except.error.inj hsource).symm⟩)
      · exact .inl (Except.error.inj hsource).symm
  | ok v =>
      rw [hsource, ok_bind] at h
      cases hbind : Binding.ofValue Order.bind v with
      | error flaw =>
          rw [hbind] at h
          exact .inr (.inr ⟨flaw, (Except.error.inj h).symm⟩)
      | ok o => rw [hbind] at h; cases h

/-- What fails a hit is told with its position. -/
theorem names_message {hit : Json} {position : Nat} {fault : HitFault}
    (h : order position hit = .error fault) : Names fault.message position := by
  rcases cases_of_order_eq_error h with rfl | ⟨v, rfl⟩ | ⟨flaw, rfl⟩
  · refine ⟨" carries no _source", ?_, by simp⟩
    unfold HitFault.message
    rfl
  · refine ⟨" has a non-object _source: " ++ v.write, ?_, by simp⟩
    unfold HitFault.message
    exact String.append_assoc ..
  · refine ⟨": " ++ flaw.message, ?_, by simp⟩
    unfold HitFault.message
    exact String.append_assoc ..

/-- A response is read as a whole or not at all. -/
structure ReadsWhole (response : Json) (result : Except Failure (List Order)) : Prop where
  ok_iff : ∀ os, result = .ok os ↔
    ∃ hits, Lists response hits ∧ List.Forall₂ Delivers hits os
  undecodable : ∀ failure, result = .error failure →
    ∃ message, failure = .undecodable .index message
  /-- Of the hits that are listed, the first one without an order is named. -/
  first : ∀ hits message, Lists response hits →
    result = .error (.undecodable .index message) →
      ∃ before hit after, hits = before ++ hit :: after ∧
        (∀ earlier ∈ before, ∃ o, Delivers earlier o) ∧ (∀ o, ¬Delivers hit o) ∧
        ∀ position, Names message position ↔ position = before.length

/-- Hits are read up to the first one that fails. -/
theorem exists_first_of_hitOrders {response : Json} {hits : List Json} {fault : HitFault}
    (hlists : Lists response hits) (h : hitOrders response = .error fault) :
    ∃ before hit after, hits = before ++ hit :: after ∧
      (∀ earlier ∈ before, ∃ o, Delivers earlier o) ∧ order before.length hit = .error fault := by
  rw [hitOrders_of_lists hlists] at h
  obtain ⟨before, ⟨hit, position⟩, after, hsplit, hbefore, hfault⟩ :=
    exists_first_of_mapM_eq_error h
  obtain ⟨earlier, later, rfl, rfl, hlater⟩ := List.zipIdx_eq_append_iff.mp hsplit
  obtain ⟨_, rest, rfl, heq, rfl⟩ := List.zipIdx_eq_cons_iff.mp hlater.symm
  obtain ⟨rfl, rfl⟩ := Prod.mk.inj heq
  refine ⟨earlier, _, rest, rfl, fun hit hhit => ?_, by simpa using hfault⟩
  obtain ⟨position, hget⟩ := List.mem_iff_getElem?.mp hhit
  obtain ⟨o, ho⟩ := hbefore (hit, position) (List.mem_zipIdx_iff_getElem?.mpr hget)
  exact ⟨o, (order_eq_ok_iff _).mp ho⟩

theorem readsWhole (response : Json) : ReadsWhole response (orders response) where
  ok_iff os := orders_eq_ok
  undecodable := by
    intro failure h
    obtain ⟨fault, -, rfl⟩ := mapError_eq_error.mp h
    exact ⟨fault.message, rfl⟩
  first := by
    intro hits message hlists h
    obtain ⟨fault, hread, hmessage⟩ := mapError_eq_error.mp h
    obtain rfl : fault.message = message := (Failure.undecodable.inj hmessage).2
    obtain ⟨before, hit, after, hsplit, hbefore, hfault⟩ :=
      exists_first_of_hitOrders hlists hread
    have hfails : ∀ o, ¬Delivers hit o := by
      intro o ho
      rw [(order_eq_ok_iff _).mpr ho] at hfault
      cases hfault
    have hnames : Names fault.message before.length := names_message hfault
    exact ⟨before, hit, after, hsplit, hbefore, hfails, fun position =>
      ⟨fun h => h.unique hnames, fun h => h ▸ hnames⟩⟩

/-- A response and documents are read as a whole or not at all. -/
theorem orders_all_or_nothing (response : Json) (ds : List Document) :
    ReadsWhole response (orders response) ∧
      (∀ os, Documents.orders ds = .ok os ↔
        List.Forall₂ (fun d o => Documents.order d = .ok o) ds os) ∧
      ∀ failure, Documents.orders ds = .error failure →
        ∃ message, failure = .undecodable .store message :=
  ⟨readsWhole response, fun _ => Documents.orders_eq_ok_iff,
    fun _ => Documents.exists_message_of_orders⟩

end Search

/-! ### Edits at a path -/

namespace Json

/-- The value in which what some member names lead to is edited. -/
def edit (f : Json → Json) : List String → Json → Json
  | [], v => f v
  | name :: names, object members =>
    match Fields.get? members name with
    | some v => object (Fields.set members name (edit f names v))
    | none => object members
  | _ :: _, v => v

theorem follow?_edit (f : Json → Json) (path : List String) (v : Json) :
    (edit f path v).follow? path = (v.follow? path).map f := by
  induction path generalizing v with
  | nil => rfl
  | cons name names ih =>
      cases v with
      | object members =>
          rw [edit]
          cases hget : Fields.get? members name with
          | none => simp [follow?, get?, hget]
          | some inner => simp [follow?, get?, hget, ih]
      | _ => rfl

/-- An edit is not seen on a path that takes another way. -/
theorem follow?_edit_of_ne (f : Json → Json) {name other : String} (hne : name ≠ other)
    (before names others : List String) (v : Json) :
    (edit f (before ++ name :: names) v).follow? (before ++ other :: others) =
      v.follow? (before ++ other :: others) := by
  induction before generalizing v with
  | nil =>
      cases v with
      | object members =>
          rw [List.nil_append, edit]
          cases hget : Fields.get? members name with
          | none => rfl
          | some inner => simp [follow?, get?, Fields.get?_set_of_ne _ _ hne]
      | _ => rfl
  | cons step before ih =>
      cases v with
      | object members =>
          rw [List.cons_append, edit]
          cases hget : Fields.get? members step with
          | none => rfl
          | some inner => simp [follow?, get?, hget, ih]
      | _ => rfl

end Json

/-! ### Sources as texts -/

namespace Search

/-- A hit with another source. Only an object has one. -/
def withSource (source : Json) : Json → Json
  | .object members => .object (Fields.set members "_source" source)
  | hit => hit

/-- A response in which the hit at a position has another source. -/
def withSourceAt (position : Nat) (source : Json) (response : Json) : Json :=
  response.edit (fun
    | .array hits => .array (hits.modify position (withSource source))
    | v => v) ["hits", "hits"]

theorem lists_withSourceAt {position : Nat} {source response : Json} {hits : List Json} :
    Lists (withSourceAt position source response) hits ↔
      ∃ listed, Lists response listed ∧ hits = listed.modify position (withSource source) := by
  have htotal : ∀ others,
      (withSourceAt position source response).follow? ("hits" :: "total" :: others) =
        response.follow? ("hits" :: "total" :: others) :=
    fun others => Json.follow?_edit_of_ne _ (by decide) ["hits"] [] others response
  have hhits : (withSourceAt position source response).follow? ["hits", "hits"] =
      some (.array hits) ↔ ∃ listed, response.follow? ["hits", "hits"] = some (.array listed) ∧
        hits = listed.modify position (withSource source) := by
    rw [withSourceAt, Json.follow?_edit]
    cases response.follow? ["hits", "hits"] with
    | none => simp
    | some v => cases v <;> simp [eq_comm]
  constructor
  · intro h
    obtain ⟨listed, hlisted, rfl⟩ := hhits.mp h.hits_eq
    refine ⟨listed, ⟨hlisted, fun total hvalue hrelation => ?_⟩, rfl⟩
    rw [← List.length_modify (withSource source) listed position]
    exact h.total_le total ((htotal _).trans hvalue) (by rwa [htotal])
  · rintro ⟨listed, h, rfl⟩
    refine ⟨hhits.mpr ⟨listed, h.hits_eq, rfl⟩, fun total hvalue hrelation => ?_⟩
    rw [List.length_modify]
    rw [htotal] at hvalue hrelation
    exact h.total_le total hvalue hrelation

/-- An edited response is read if the hits are, of which one has another source. -/
theorem orders_withSourceAt_eq_ok {position : Nat} {source response : Json} {os : List Order} :
    orders (withSourceAt position source response) = .ok os ↔
      ∃ hits, Lists response hits ∧
        List.Forall₂ Delivers (hits.modify position (withSource source)) os := by
  rw [orders_eq_ok]
  simp only [lists_withSourceAt]
  constructor
  · rintro ⟨_, ⟨hits, hlists, rfl⟩, hdelivers⟩
    exact ⟨hits, hlists, hdelivers⟩
  · rintro ⟨hits, hlists, hdelivers⟩
    exact ⟨_, ⟨hits, hlists, rfl⟩, hdelivers⟩

theorem delivers_withSource {members : List (String × Json)} {source : Json} {o : Order} :
    Delivers (withSource source (.object members)) o ↔ Conveys source o := by
  simp [Delivers, withSource, Json.get?]

/-- A record binds from an object, or from the items of an array. -/
theorem object_or_array_of_bind {v : Json} {o : Order} (h : Binding.ofValue Order.bind v = .ok o) :
    (∃ members, v = .object members) ∨ ∃ items, v = .array items := by
  cases v with
  | object members => exact .inl ⟨members, rfl⟩
  | array items => exact .inr ⟨items, rfl⟩
  | null | boolean b | number n | string s => cases h

theorem conveys_text_iff {text : String} {v : Json} {o : Order}
    (hparse : Json.parse? text = some v) :
    Conveys (.string text) o ↔ Binding.ofValue Order.bind v = .ok o := by
  constructor
  · intro h
    cases h with
    | text hother hbind =>
        obtain rfl := Option.some.inj (hparse.symm.trans hother)
        exact hbind
  · exact .text hparse

theorem conveys_iff_of_ne_string {v : Json} {o : Order} (hv : ∀ text, v ≠ .string text) :
    Conveys v o ↔ (∃ members, v = .object members) ∧ Binding.ofValue Order.bind v = .ok o := by
  constructor
  · intro h
    cases h with
    | object hbind => exact ⟨⟨_, rfl⟩, hbind⟩
    | text => exact absurd rfl (hv _)
  · rintro ⟨⟨members, rfl⟩, hbind⟩
    exact .object hbind

/-- A text conveys what the value does that it spells, unless that is an array. -/
theorem conveys_text_iff_of_ne_array {text : String} {v : Json} {o : Order}
    (hparse : Json.parse? text = some v) (hstring : ∀ text, v ≠ .string text)
    (harray : ∀ items, v ≠ .array items) : Conveys (.string text) o ↔ Conveys v o := by
  rw [conveys_text_iff hparse, conveys_iff_of_ne_string hstring]
  constructor
  · intro hbind
    exact ⟨(object_or_array_of_bind hbind).resolve_right fun ⟨items, h⟩ => harray items h, hbind⟩
  · exact fun h => h.2

/-- A response in which a hit has another source is read if that conveys an order and the other
hits deliver theirs. -/
theorem exists_orders_withSourceAt_iff {position : Nat} (source : Json) {response : Json}
    {hits : List Json} {members : List (String × Json)}
    (hhits : response.follow? ["hits", "hits"] = some (.array hits))
    (hhit : hits[position]? = some (.object members)) :
    (∃ os, orders (withSourceAt position source response) = .ok os) ↔
      (∃ o, Conveys source o) ∧ Lists response hits ∧
        ∀ j hit, position ≠ j → hits[j]? = some hit → ∃ o, Delivers hit o := by
  have hedited : (∃ os, List.Forall₂ Delivers (hits.modify position (withSource source)) os) ↔
      (∃ o, Conveys source o) ∧
        ∀ j hit, position ≠ j → hits[j]? = some hit → ∃ o, Delivers hit o := by
    simp only [exists_forall₂_iff, forall_mem_modify hhit, delivers_withSource]
  simp only [orders_withSourceAt_eq_ok]
  rw [and_left_comm, ← hedited]
  constructor
  · rintro ⟨os, listed, hlists, hdelivers⟩
    obtain rfl : listed = hits :=
      Json.array.inj (Option.some.inj (hlists.hits_eq.symm.trans hhits))
    exact ⟨hlists, os, hdelivers⟩
  · rintro ⟨hlists, os, hdelivers⟩
    exact ⟨os, hits, hlists, hdelivers⟩

/-- A source is read alike as a text and as the value that the text spells, unless that is an
array. At a hit that is there, the text is read if what it spells binds to an order, and the value
if it is an object besides, as far as the response is read with an empty object in that place. What
binds to an order is an object or an array. -/
theorem source_as_text_or_value (response : Json) (position : Nat) {text : String} {v : Json}
    (hparse : Json.parse? text = some v) (hstring : ∀ text, v ≠ .string text) :
    let asText := orders (withSourceAt position (.string text) response)
    let asValue := orders (withSourceAt position v response)
    let binds := ∃ o, Binding.ofValue Order.bind v = .ok o
    let rest := ∃ os, orders (withSourceAt position (.object []) response) = .ok os
    ((∀ items, v ≠ .array items) → ∀ os, asText = .ok os ↔ asValue = .ok os) ∧
      (∀ hits members, response.follow? ["hits", "hits"] = some (.array hits) →
        hits[position]? = some (.object members) →
          ((∃ os, asText = .ok os) ↔ binds ∧ rest) ∧
          ((∃ os, asValue = .ok os) ↔ (∃ found, v = .object found) ∧ binds ∧ rest)) ∧
      (binds → (∃ found, v = .object found) ∨ ∃ items, v = .array items) := by
  intro asText asValue binds rest
  refine ⟨fun harray os => ?_, fun hits members hhits hhit => ?_, fun ⟨o, hbind⟩ =>
    object_or_array_of_bind hbind⟩
  · have halike : ∀ hit o, Delivers (withSource (.string text) hit) o ↔
        Delivers (withSource v hit) o := by
      intro hit o
      cases hit with
      | object members =>
          rw [delivers_withSource, delivers_withSource]
          exact conveys_text_iff_of_ne_array hparse hstring harray
      | _ => rfl
    simp only [asText, asValue, orders_withSourceAt_eq_ok, forall₂_modify_congr halike]
  · have hblank : ∃ o, Conveys (.object []) o := ⟨{}, .object rfl⟩
    have hrest := exists_orders_withSourceAt_iff (.object []) hhits hhit
    rw [and_iff_right hblank] at hrest
    -- What else is read does not depend on the source.
    have hread : ∀ source, (∃ os, orders (withSourceAt position source response) = .ok os) ↔
        (∃ o, Conveys source o) ∧ rest := by
      intro source
      rw [exists_orders_withSourceAt_iff source hhits hhit, ← hrest]
    constructor
    · simp only [asText, binds, hread, conveys_text_iff hparse]
    · simp only [asValue, binds, hread, conveys_iff_of_ne_string hstring, exists_and_left,
        and_assoc]

/-- An empty object is the blank order, as a text and as a value. -/
theorem source_as_text_or_value_braces :
    let response : Json := .object [("hits", .object [("hits", .array [.object []])])]
    let asText := orders (withSourceAt 0 (.string "\x7b\x7d") response)
    let asValue := orders (withSourceAt 0 (.object []) response)
    Json.parse? "\x7b\x7d" = some (.object []) ∧ asValue = .ok [{}] ∧
      ∀ os, asText = .ok os ↔ asValue = .ok os := by
  intro response asText asValue
  refine ⟨Json.parse?_braces, rfl, ?_⟩
  exact (source_as_text_or_value response 0 Json.parse?_braces nofun).1 nofun

/-- An empty array is the blank order as a text, and as a value it fails the response. -/
theorem source_as_text_unlike_value :
    let response : Json := .object [("hits", .object [("hits", .array [.object []])])]
    let asText := orders (withSourceAt 0 (.string "[]") response)
    let asValue := orders (withSourceAt 0 (.array []) response)
    Json.parse? "[]" = some (.array []) ∧ asText = .ok [{}] ∧ ∀ os, asValue ≠ .ok os := by
  intro response asText asValue
  have hlists : Lists (withSourceAt 0 (.string "[]") response)
      [withSource (.string "[]") (.object [])] := ⟨rfl, nofun⟩
  refine ⟨Json.parse?_brackets, ?_, nofun⟩
  exact orders_eq_ok.mpr ⟨_, hlists, .cons ⟨_, rfl, .text Json.parse?_brackets rfl⟩ .nil⟩

end Search

end OrderDesk
