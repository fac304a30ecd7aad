import Mathlib.Tactic.Common
import OrderDesk.Proofs.Agreement

/-! # Orders that are read back

An order that is made comes back from its document and from a search hit with its source, its times
cut off at the millisecond. What comes back has the same JSON form, so it comes back unchanged from
then on.
-/

namespace OrderDesk

open Calendar (Instant)

namespace Search

/-- A response with a single hit that is no part of more gives the order of that hit. -/
theorem orders_of_single_hit {response hit : Json} {o : Order} (ho : o.IsStorable)
    (hhits : hits? response = some [hit]) (hsource : hit.get? "_source" = some o.toJson)
    (htotal : ∀ total ∈ exactTotal? response, total ≤ 1) :
    orders response = .ok [o.truncated] := by
  have hshows : Shows hit o.truncated := by
    refine shows_of_source (fun position => ?_) (Order.bind_toJson ho)
    rw [source, hsource]
    rfl
  rw [orders_eq_ok_iff hhits]
  exact ⟨htotal, .cons hshows .nil⟩

end Search

/-- Both written forms of an order that was made at a current time read back as the order up to the
millisecond, which is written as the order itself is. -/
theorem Order.written_forms_read_back {input : OrderInput} {id : String} {now : Instant}
    {o : Order} (hnow : now.IsCurrent) (hmake : Order.make input id now = .ok o) :
    (∃ d, Documents.ofJson o.toJson = .ok d ∧ Documents.orders [d] = .ok [o.truncated]) ∧
      (∀ response hit, Search.hits? response = some [hit] →
        hit.get? "_source" = some o.toJson →
        (∀ total ∈ Search.exactTotal? response, total ≤ 1) →
        Search.orders response = .ok [o.truncated]) ∧
      o.truncated.toJson = o.toJson := by
  have ho : o.IsStorable := Order.isStorable_of_make hnow hmake
  refine ⟨⟨Documents.document o, Documents.ofOrder_eq o, ?_⟩, ?_, Order.toJson_truncated ho⟩
  · have hall : ∀ other ∈ [o], other.IsStorable := by
      intro other hother
      rw [List.mem_singleton.mp hother]
      exact ho
    exact Documents.orders_map_document hall
  · intro response hit hhits hsource htotal
    exact Search.orders_of_single_hit ho hhits hsource htotal

/-- Two pens that are ordered late at night are read back from their document and from a hit that
says nothing of a total. -/
theorem Order.written_forms_read_back_pens :
    let o := Service.pensOrder "a" "Bonn"
    let hit := Json.object [("_id", .string "a"), ("_source", o.toJson)]
    let response := Json.object [("hits", .object [("hits", .array [hit])])]
    Service.lateEvening.IsCurrent ∧
      Order.make { status := "NEW", city := "Bonn", lineItems := Service.pens } "a"
        Service.lateEvening = .ok o ∧
      (∃ d, Documents.ofJson o.toJson = .ok d ∧ Documents.orders [d] = .ok [o.truncated]) ∧
      Search.orders response = .ok [o.truncated] ∧ o.truncated.toJson = o.toJson := by
  intro o hit response
  have hnow := Service.lateEvening_isCurrent
  have hmake := Service.make_pens "a" "Bonn"
  obtain ⟨hstore, hindex, hjson⟩ := Order.written_forms_read_back hnow hmake
  exact ⟨hnow, hmake, hstore, hindex response hit rfl rfl (fun _ h => nomatch h), hjson⟩

end OrderDesk
