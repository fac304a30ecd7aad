import Mathlib.Data.List.Forall2
import Mathlib.Tactic.Common
import OrderDesk.Proofs.Records
import OrderDesk.Search.Hits
import OrderDesk.Search.Index

/-! # Hits that hold orders

A response is read hit by hit, and as a whole or not at all. Which order a hit holds does not depend
on its place, so a list of orders is read from a response if it has one of them for each hit and the
response has no exact total above their number.
-/

namespace OrderDesk.Search

/-- A hit holds an order, wherever it stands in a response. -/
def Shows (hit : Json) (o : Order) : Prop := ∀ position, order position hit = .ok o

/-- The position of a hit is told if the hit cannot be read, and does not matter otherwise. -/
theorem source_eq_ok {hit v : Json} {position : Nat} (h : source position hit = .ok v)
    (other : Nat) : source other hit = .ok v := by
  unfold source at h ⊢
  split at h
  · next text hget =>
    cases hparse : Json.parse? text with
    | none => rw [hparse] at h; cases h
    | some w => rwa [hparse] at h
  · exact h
  · cases h
  · cases h

theorem shows_iff {hit : Json} {o : Order} {position : Nat} :
    Shows hit o ↔ order position hit = .ok o := by
  refine ⟨fun h => h position, fun h other => ?_⟩
  obtain ⟨v, hsource, hbind⟩ := bind_eq_ok.mp h
  apply bind_eq_ok.mpr
  exact ⟨v, source_eq_ok hsource other, mapError_eq_ok.mpr (mapError_eq_ok.mp hbind)⟩

/-- A hit whose source is a value shows the order that the value binds to. -/
theorem shows_of_source {hit v : Json} {o : Order}
    (hsource : ∀ position, source position hit = .ok v)
    (hbind : Binding.ofValue Order.bind v = .ok o) : Shows hit o := by
  intro position
  rw [order, hsource, ok_bind, hbind]
  rfl

/-- Hits are read one by one, in sequence. -/
theorem mapM_order_eq_ok {hits : List Json} {os : List Order} :
    hits.zipIdx.mapM (fun entry => order entry.2 entry.1) = .ok os ↔
      List.Forall₂ Shows hits os := by
  have hpositions : List.Forall₂ Shows hits os ↔
      List.Forall₂ (fun entry o => Shows entry.1 o) hits.zipIdx os := by
    conv_lhs => rw [← List.zipIdx_map_fst 0 hits]
    exact List.forall₂_map_left_iff
  rw [mapM_eq_ok_iff, hpositions]
  simp only [← shows_iff]

/-- A response is read if each hit holds an order and no exact total is above their number. -/
theorem orders_eq_ok_iff {response : Json} {hits : List Json} {os : List Order}
    (hhits : hits? response = some hits) :
    orders response = .ok os ↔
      (∀ total ∈ exactTotal? response, total ≤ hits.length) ∧ List.Forall₂ Shows hits os := by
  rw [orders, mapError_eq_ok, hitOrders, ← mapM_order_eq_ok]
  simp only [hhits]
  cases exactTotal? response with
  | none => simp
  | some total =>
      by_cases hshort : hits.length < total
      · simp [hshort, Nat.not_le_of_lt hshort]
      · simp [hshort, Nat.le_of_not_lt hshort]

/-- A response that lists hits out of a number of matches is read if it lists all of them and each
one holds an order. -/
theorem orders_response_eq_ok {total : Nat} {hits : List Json} {os : List Order} :
    orders (Index.response total hits) = .ok os ↔
      total ≤ hits.length ∧ List.Forall₂ Shows hits os := by
  have htotal : exactTotal? (Index.response total hits) = some total := rfl
  rw [orders_eq_ok_iff rfl, htotal]
  simp

theorem orders_response_cutShort {total : Nat} {hits : List Json} (h : hits.length < total) :
    orders (Index.response total hits) =
      .error (.undecodable .index (HitFault.cutShort hits.length total).message) := by
  have hread : hitOrders (Index.response total hits) =
      .error (.cutShort hits.length total) := if_pos h
  rw [orders, hread]
  rfl

end OrderDesk.Search
