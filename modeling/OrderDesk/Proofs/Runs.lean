import Mathlib.Tactic.Common
import OrderDesk.Proofs.Agreement
import OrderDesk.Proofs.Demands

/-! # Runs on backends that never fail

As long as no call fails, the backends hold one list of orders: what was created and not deleted
since, in the order of creation. Each demand changes that list as its result says, and the list is
what listing and filtering return.
-/

namespace OrderDesk.Service

open Documents (Collection)
open OrderDesk.Filter (Request)
open Search (Index)

/-! ### Backends that hold the same -/

/-- Both backends hold these orders, in this sequence. -/
structure Backends.Hold (b : Backends) (os : List Order) : Prop where
  store : b.store.Holds os
  sources_eq : b.index.sources = Search.sources os

/-- What the result of a demand says has become of the orders before it. -/
def Event.change (e : Event) (os : List Order) : List Order :=
  match e.demand, e.result with
  | .create _ _ _, .ok (.created o) => os ++ [o]
  | .delete id, .ok _ => os.filter (·.id ≠ id)
  | _, _ => os

/-- The orders that a log creates and does not delete later, in the order of creation. -/
def live (log : List Event) : List Order := log.foldl (fun os e => e.change os) []

theorem live_append (log : List Event) (e : Event) : live (log ++ [e]) = e.change (live log) := by
  simp [live]

/-- Every live order has an event of its own. -/
theorem length_live_le (log : List Event) : (live log).length ≤ log.length := by
  suffices hfold : ∀ os : List Order,
      (log.foldl (fun os e => e.change os) os).length ≤ os.length + log.length by
    simpa [live] using hfold []
  induction log with
  | nil => simp
  | cons e log ih =>
      intro os
      have hchange : (e.change os).length ≤ os.length + 1 := by
        unfold Event.change
        split
        · simp
        · exact Nat.le_succ_of_le (List.length_filter_le _ _)
        · exact Nat.le_succ _
      have hrest := ih (e.change os)
      rw [List.foldl_cons, List.length_cons]
      omega

namespace Backends.Hold

open Backends

variable {b : Backends} {os : List Order}

theorem empty : Hold {} [] := ⟨.nil, rfl⟩

/-! ### What is listed -/

/-- Without conditions and sort keys, the answer is everything. -/
theorem answer_empty (os : List Order) : Request.empty.answer os = os := by
  have hall : os.filter Request.empty.selects = os :=
    List.filter_eq_self.mpr fun o _ => rfl
  have hsorted : os.Pairwise fun a b => Request.empty.precedes a b = true :=
    List.pairwise_of_forall fun a b => rfl
  rw [Request.answer, hall, List.mergeSort_of_pairwise hsorted]

theorem run_list (h : b.Hold os) : (run list b).1 = .ok (os.map Order.truncated) := by
  rw [Service.run_list, h.store.orders_eq]

theorem run_filter_store (h : b.Hold os) :
    (run (filter .store .empty) b).1 = .ok (os.map Order.truncated) := by
  have hfind : b.store.find (.ofRequest .empty) = os.map Documents.document := by
    rw [h.store.documents_eq, Documents.find_ofRequest rfl .empty rfl rfl, answer_empty]
    exact fun key hkey => absurd hkey List.not_mem_nil
  rw [Service.run_filter_store rfl, hfind]
  exact Documents.orders_map_document h.store.isStorable

theorem run_filter_index (h : b.Hold os) (hlength : os.length ≤ 10000) :
    (run (filter .index .empty) b).1 = .ok (os.map Order.truncated) := by
  obtain ⟨store, ⟨name, sources⟩⟩ := b
  obtain rfl : sources = Search.sources os := h.sources_eq
  rw [Service.run_filter_index rfl, search_ofRequest name hlength rfl rfl rfl, answer_empty]
  exact Search.orders_response h.store.isStorable

/-! ### What the work on a demand does -/

theorem run_creation {o : Order} (h : b.Hold os) (hnew : o.id ∉ os.map (·.id)) :
    (creation o).run perform b =
      (.ok (.created o), ⟨(os ++ [o]).map Documents.document, b.index.put o⟩) := by
  rw [creation, Dialogue.run_ask, perform_insert h.store hnew]
  rfl

/-- A second order with an identity is refused. -/
theorem run_creation_of_mem {o : Order} (h : b.Hold os) (hknown : o.id ∈ os.map (·.id)) :
    (creation o).run perform b =
      (.error (.internal ("the " ++ Backend.store.description ++ " rejected the " ++ "insert")),
        b) := by
  rw [creation, Dialogue.run_ask, perform_insert_of_mem h.store hknown]
  rfl

theorem run_deletion {id : String} (h : b.Hold os) (hknown : id ∈ os.map (·.id)) :
    (deletion id).run perform b =
      (.ok .deleted, ⟨b.store.remove id, b.index.discard id⟩) := by
  rw [deletion, Dialogue.run_ask, perform_remove h.store hknown]
  rfl

theorem run_deletion_of_not_mem {id : String} (h : b.Hold os) (hnew : id ∉ os.map (·.id)) :
    (deletion id).run perform b = (.error (.notFound id), b) := by
  rw [deletion, Dialogue.run_ask, perform_remove_of_not_mem h.store hnew]
  rfl

/-- Reconciling an order that is held indexes what is indexed already. -/
theorem run_reconciliation {id : String} (h : b.Hold os) (hknown : id ∈ os.map (·.id)) :
    (reconciliation id).run perform b = (.ok (.reconciled .reindexed), b) := by
  obtain ⟨o, ho, rfl⟩ := List.mem_map.mp hknown
  have hstorable := h.store.isStorable o ho
  have hput : b.perform (.put o.truncated) = (.ok (), b) := by
    simp only [perform, Index.put, Order.toJson_truncated hstorable, Order.id_truncated,
      h.sources_eq, Search.set_sources_of_mem h.store.ids_nodup ho]
    rw [← h.sources_eq]
  rw [reconciliation, Dialogue.run_ask, perform_findById h.store ho]
  simp only [Documents.order_document hstorable, reindexing, Dialogue.run_ask, hput,
    Dialogue.run_done]

theorem run_reconciliation_of_not_mem {id : String} (h : b.Hold os)
    (hnew : id ∉ os.map (·.id)) :
    (reconciliation id).run perform b = (.error (.notFound id), b) := by
  have hnames : id ∉ Fields.names b.index.sources := by rwa [h.sources_eq, Search.names_sources]
  have hknown : b.index.contains id = false := by
    rw [Index.contains, Bool.eq_false_iff, ne_eq, Fields.has_eq]
    exact hnames
  have hdiscard : b.perform (.discard id) = (.ok false, b) := by
    rw [perform, hknown, Index.discard, Fields.without_of_not_mem hnames]
  rw [reconciliation, Dialogue.run_ask, perform_findById_of_not_mem h.store hnew]
  simp only [withdrawing, Dialogue.run_ask, hdiscard, Dialogue.run_done]

/-- The work on a demand changes what is held as its result says. -/
theorem step {d : Demand} (hd : d.IsCurrent) (h : b.Hold os) :
    (d.steps.run perform b).2.Hold (Event.change ⟨d, (d.steps.run perform b).1⟩ os) := by
  cases d with
  | create input id now =>
      cases hmake : Order.make input id now with
      | error fault =>
          rw [steps_create_of_error hmake]
          exact h
      | ok o =>
          rw [steps_create hmake]
          by_cases hknown : o.id ∈ os.map (·.id)
          · rw [h.run_creation_of_mem hknown]
            exact h
          · rw [h.run_creation hknown]
            refine ⟨h.store.append hknown (Order.isStorable_of_make hd hmake), ?_⟩
            simp only [Index.put, h.sources_eq]
            exact Search.set_sources hknown
  | delete id =>
      rw [steps_delete]
      by_cases hknown : id ∈ os.map (·.id)
      · rw [h.run_deletion hknown]
        refine ⟨h.store.filter id, ?_⟩
        simp only [Index.discard, h.sources_eq]
        exact Search.without_sources os id
      · rw [h.run_deletion_of_not_mem hknown]
        exact h
  | reconcile id =>
      rw [steps_reconcile]
      by_cases hknown : id ∈ os.map (·.id)
      · rw [h.run_reconciliation hknown]
        exact h
      · rw [h.run_reconciliation_of_not_mem hknown]
        exact h

end Backends.Hold

/-! ### Whole runs -/

/-- After any run from empty backends, they hold the orders that are live in its log. -/
theorem runAll_hold {demands : List Demand} (hcurrent : ∀ d ∈ demands, d.IsCurrent) :
    (runAll Backends.perform demands {}).2.Hold
      (live (runAll Backends.perform demands {}).1) := by
  have hempty : Backends.Hold {} (live []) := .empty
  refine runAll_keeps (P := fun log b => Backends.Hold b (live log)) (fun d hd log b h => ?_) hempty
  rw [live_append]
  exact h.step (hcurrent d hd)

/-- After any run from empty backends, listing and the empty filter return the orders that are
live in its log, up to what their written form tells. -/
theorem runAll_lists_live {demands : List Demand} (hcurrent : ∀ d ∈ demands, d.IsCurrent) :
    let log := (runAll Backends.perform demands {}).1
    let b := (runAll Backends.perform demands {}).2
    ∃ found : List Order, found.map Order.toJson = (live log).map Order.toJson ∧
      (Backends.run list b).1 = .ok found ∧
      (Backends.run (filter .store .empty) b).1 = .ok found ∧
      ((live log).length ≤ 10000 → (Backends.run (filter .index .empty) b).1 = .ok found) := by
  intro log b
  have h : b.Hold (live log) := runAll_hold hcurrent
  refine ⟨(live log).map Order.truncated, ?_, h.run_list, h.run_filter_store, h.run_filter_index⟩
  rw [List.map_map]
  exact List.map_congr_left fun o ho => Order.toJson_truncated (h.store.isStorable o ho)

/-- An order that is created stays listed when it is reconciled and another one deleted. -/
theorem runAll_lists_live_pens :
    let demands : List Demand :=
      [.create { status := "NEW", city := "Bonn", lineItems := pens } "a" lateEvening,
        .reconcile "a", .delete "b"]
    let log := (runAll Backends.perform demands {}).1
    let b := (runAll Backends.perform demands {}).2
    (∀ d ∈ demands, d.IsCurrent) ∧ (live log).length ≤ 10000 ∧
      ∃ found : List Order, found.map Order.toJson = (live log).map Order.toJson ∧
        (Backends.run list b).1 = .ok found ∧
        (Backends.run (filter .store .empty) b).1 = .ok found ∧
        (Backends.run (filter .index .empty) b).1 = .ok found := by
  intro demands log b
  have hcurrent : ∀ d ∈ demands, d.IsCurrent :=
    List.forall_mem_cons.mpr ⟨lateEvening_isCurrent,
      List.forall_mem_cons.mpr ⟨trivial, List.forall_mem_singleton.mpr trivial⟩⟩
  have hlength : (live log).length ≤ 10000 := by
    have hevents : log.length = 3 := length_runAll _ _
    have hlive := length_live_le log
    omega
  obtain ⟨found, hjson, hlist, hstore, hindex⟩ := runAll_lists_live hcurrent
  exact ⟨hcurrent, hlength, found, hjson, hlist, hstore, hindex hlength⟩

end OrderDesk.Service
