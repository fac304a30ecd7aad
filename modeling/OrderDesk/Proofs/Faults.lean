import Mathlib.Tactic.Common
import OrderDesk.Proofs.Agreement
import OrderDesk.Proofs.Demands

/-! # Runs under faults

Any call may fail without an effect, as a schedule of faults says. The backends may then come
apart at an identity, but only by a write that stops halfway. Its caller is told, and the
backends agree on the identity again as soon as reconciling it gets through.
-/

namespace OrderDesk

open Documents (Collection)
open Search (Index)

namespace Documents.Collection

theorem findById_append (c : Collection) (d : Document) (id : String) :
    findById (c ++ [d]) id = (findById c id).or (if idOf d = some id then some d else none) := by
  rw [findById, List.find?_append, ← findById]
  congr 1
  by_cases h : idOf d = some id <;> simp [h]

theorem findById_remove_self (c : Collection) (id : String) : findById (remove c id) id = none := by
  simp [findById, remove]

/-- Deleting one document leaves the others to be found. -/
theorem findById_remove_of_ne (c : Collection) {id other : String} (h : other ≠ id) :
    findById (remove c id) other = findById c other := by
  rw [findById, findById, remove, List.find?_filter]
  congr 1
  funext d
  by_cases hid : idOf d = some other
  · simp [hid, h]
  · simp [hid]

end Documents.Collection

namespace Service

/-! ### Agreement on one identity -/

/-- A stored document and an indexed source belong together: neither is there, or the source is
the JSON form of the order in the document. -/
def Match : Option Document → Option Json → Prop
  | none, none => True
  | some d, some source => ∃ o, Documents.order d = .ok o ∧ source = o.toJson
  | _, _ => False

namespace Backends

/-- Both backends say the same of an identity. -/
def AgreeOn (b : Backends) (id : String) : Prop :=
  Match (b.store.findById id) (Fields.get? b.index.sources id)

/-- Two states of the backends do not differ at an identity. -/
def SameAt (id : String) (b b' : Backends) : Prop :=
  b.store.findById id = b'.store.findById id ∧
    Fields.get? b.index.sources id = Fields.get? b'.index.sources id

theorem SameAt.agreeOn_iff {id : String} {b b' : Backends} (h : SameAt id b b') :
    b.AgreeOn id ↔ b'.AgreeOn id := by
  rw [AgreeOn, AgreeOn, h.1, h.2]

theorem agreeOn_empty (id : String) : AgreeOn {} id := trivial

theorem SameAt.trans {id : String} {b b' b'' : Backends} (h : SameAt id b b')
    (h' : SameAt id b' b'') : SameAt id b b'' :=
  ⟨h.1.trans h'.1, h.2.trans h'.2⟩

section Calls

variable {b : Backends} {os : List Order} {id other : String}

theorem sameAt_insert {o : Order} (h : b.store.Holds os) (hne : other ≠ o.id) :
    SameAt other { b with store := (os ++ [o]).map Documents.document } b := by
  refine ⟨?_, rfl⟩
  have hlast : Collection.idOf (Documents.document o) ≠ some other := by
    rw [Collection.idOf_document, ne_eq, Option.some.injEq]
    exact Ne.symm hne
  rw [h.documents_eq, List.map_append, List.map_cons, List.map_nil,
    Collection.findById_append, if_neg hlast, Option.or_none]

theorem sameAt_remove (hne : other ≠ id) :
    SameAt other { b with store := b.store.remove id } b :=
  ⟨Collection.findById_remove_of_ne b.store hne, rfl⟩

theorem sameAt_put {o : Order} (hne : other ≠ o.id) :
    SameAt other { b with index := b.index.put o } b :=
  ⟨rfl, Fields.get?_set_of_ne _ _ (Ne.symm hne)⟩

theorem sameAt_discard (hne : other ≠ id) :
    SameAt other { b with index := b.index.discard id } b :=
  ⟨rfl, Fields.get?_without_of_ne hne⟩

/-- Indexing what the store holds under an identity makes the backends agree on it. -/
theorem agreeOn_put {o indexed : Order} (h : b.store.Holds os) (ho : o ∈ os)
    (hid : indexed.id = o.id) (hjson : indexed.toJson = o.toJson) :
    AgreeOn { b with index := b.index.put indexed } o.id := by
  have hstorable := h.isStorable o ho
  have hsource : Fields.get? (b.index.put indexed).sources o.id = some indexed.toJson := by
    rw [Index.put, ← hid]
    exact Fields.get?_set_self ..
  rw [AgreeOn, h.findById_eq_some ho, hsource]
  exact ⟨o.truncated, Documents.order_document hstorable,
    hjson.trans (Order.toJson_truncated hstorable).symm⟩

theorem agreeOn_discard (h : b.store.findById id = none) :
    AgreeOn { b with index := b.index.discard id } id := by
  have hsource : Fields.get? (b.index.discard id).sources id = none :=
    Fields.get?_without_self ..
  rw [AgreeOn, h, hsource]
  trivial

end Calls

/-! ### Faults -/

/-- What comes of a call under a schedule of faults: the call fails without an effect if the
schedule has a fault for it. Calls beyond the schedule do not fail. -/
def attempt (c : Call) : Backends × List (Option Setback) →
    c.Outcome × Backends × List (Option Setback)
  | (b, faults) =>
    match faults.head?.join with
    | some setback => (.error setback, b, faults.tail)
    | none => ((b.perform c).1, (b.perform c).2, faults.tail)

theorem attempt_cases (c : Call) (b : Backends) (faults : List (Option Setback)) :
    (∃ setback rest, attempt c (b, faults) = (.error setback, b, rest)) ∨
      ∃ rest, attempt c (b, faults) = ((b.perform c).1, (b.perform c).2, rest) := by
  cases hfault : faults.head?.join with
  | some setback => exact .inl ⟨setback, faults.tail, by simp only [attempt, hfault]⟩
  | none => exact .inr ⟨faults.tail, by simp only [attempt, hfault]⟩

end Backends

/-! ### Reports -/

namespace Event

/-- A write that was reported to have stopped halfway. -/
def Reports (id : String) (e : Event) : Prop :=
  ∃ operation completed pending, e.result = .error (.halfDone id operation completed pending)

/-- Reconciling that got through: the index is in line, or nobody knows the order. -/
def Settles (id : String) (e : Event) : Prop :=
  e.demand = .reconcile id ∧
    ((∃ reply, e.result = .ok reply) ∨ ∃ unknown, e.result = .error (.notFound unknown))

end Event

/-- A halfway write at an identity was reported, and not settled since. -/
def Reported (log : List Event) (id : String) : Prop :=
  ∃ before e since, log = before ++ e :: since ∧ e.Reports id ∧ ∀ e' ∈ since, ¬e'.Settles id

theorem Reported.append {log : List Event} {id : String} (h : Reported log id) {e : Event}
    (he : ¬e.Settles id) : Reported (log ++ [e]) id := by
  obtain ⟨before, report, since, rfl, hreport, hsince⟩ := h
  refine ⟨before, report, since ++ [e], by simp, hreport, ?_⟩
  intro e' he'
  rcases List.mem_append.mp he' with hmem | hlast
  · exact hsince e' hmem
  · rw [List.mem_singleton.mp hlast]
    exact he

theorem Reported.last {log : List Event} {id : String} {e : Event} (h : e.Reports id) :
    Reported (log ++ [e]) id :=
  ⟨log, e, [], rfl, h, by simp⟩

/-! ### Second halves -/

section Halves

open Backends

variable (b : Backends) (faults : List (Option Setback))

theorem indexing_cases (o : Order) :
    (∃ rest, (indexing o).run attempt (b, faults) =
      (.error (.halfDone o.id .create .store .index), b, rest)) ∨
    ∃ rest, (indexing o).run attempt (b, faults) =
      (.ok (.created o), { b with index := b.index.put o }, rest) := by
  rw [indexing, Dialogue.run_ask]
  rcases attempt_cases (.put o) b faults with ⟨setback, rest, h⟩ | ⟨rest, h⟩
  · exact .inl ⟨rest, by rw [h]; rfl⟩
  · exact .inr ⟨rest, by rw [h]; rfl⟩

theorem discarding_cases (id : String) :
    (∃ rest, (discarding id).run attempt (b, faults) =
      (.error (.halfDone id .delete .store .index), b, rest)) ∨
    ∃ rest, (discarding id).run attempt (b, faults) =
      (.ok .deleted, { b with index := b.index.discard id }, rest) := by
  rw [discarding, Dialogue.run_ask]
  rcases attempt_cases (.discard id) b faults with ⟨setback, rest, h⟩ | ⟨rest, h⟩
  · exact .inl ⟨rest, by rw [h]; rfl⟩
  · exact .inr ⟨rest, by rw [h]; rfl⟩

/-- What a caller is told of a setback is no claim about an order. -/
theorem failure_ne_notFound (setback : Setback) (backend : Backend) (action id : String) :
    setback.failure backend action ≠ .notFound id := by
  cases setback <;> exact nofun

theorem reindexing_cases (o : Order) :
    (∃ setback rest, (reindexing o).run attempt (b, faults) =
      (.error (Setback.failure .index "reindex" setback), b, rest)) ∨
    ∃ rest, (reindexing o).run attempt (b, faults) =
      (.ok (.reconciled .reindexed), { b with index := b.index.put o }, rest) := by
  rw [reindexing, Dialogue.run_ask]
  rcases attempt_cases (.put o) b faults with ⟨setback, rest, h⟩ | ⟨rest, h⟩
  · exact .inl ⟨setback, rest, by rw [h]; rfl⟩
  · exact .inr ⟨rest, by rw [h]; rfl⟩

theorem withdrawing_cases (id : String) :
    (∃ setback rest, (withdrawing id).run attempt (b, faults) =
      (.error (Setback.failure .index "delete" setback), b, rest)) ∨
    ∃ rest, (withdrawing id).run attempt (b, faults) =
      (if b.index.contains id then .ok (.reconciled .removed) else .error (.notFound id),
        { b with index := b.index.discard id }, rest) := by
  rw [withdrawing, Dialogue.run_ask]
  rcases attempt_cases (.discard id) b faults with ⟨setback, rest, h⟩ | ⟨rest, h⟩
  · exact .inl ⟨setback, rest, by rw [h]; rfl⟩
  · rw [h, perform]
    cases b.index.contains id with
    | false => exact .inr ⟨rest, rfl⟩
    | true => exact .inr ⟨rest, rfl⟩

end Halves

/-! ### The work on one demand -/

/-- What the work on a demand may come to. Only the identity that the demand is about is touched,
and there the backends agree, or the result reports a halfway write, or nothing has happened. -/
structure Progress (e : Event) (b b' : Backends) : Prop where
  holds : ∃ os, b'.store.Holds os
  elsewhere : ∀ id, id ≠ e.demand.id → Backends.SameAt id b' b
  outcome : b'.AgreeOn e.demand.id ∨ e.Reports e.demand.id ∨
    b' = b ∧ ¬e.Settles e.demand.id

namespace Progress

open Backends

variable {b : Backends} {os : List Order} {faults : List (Option Setback)}

theorem unchanged {e : Event} (h : b.store.Holds os) (he : ¬e.Settles e.demand.id) :
    Progress e b b :=
  ⟨⟨os, h⟩, fun _ _ => ⟨rfl, rfl⟩, .inr (.inr ⟨rfl, he⟩)⟩

theorem creation {o : Order} {d : Demand} (h : b.store.Holds os) (ho : o.IsStorable)
    (hid : d.id = o.id) (hd : ∀ id, d ≠ .reconcile id) :
    Progress ⟨d, ((creation o).run attempt (b, faults)).1⟩ b
      ((creation o).run attempt (b, faults)).2.1 := by
  have hunsettled : ∀ result, ¬Event.Settles d.id ⟨d, result⟩ :=
    fun result hsettles => hd _ hsettles.1
  rw [Service.creation, Dialogue.run_ask]
  rcases attempt_cases (.insert o) b faults with ⟨setback, rest, hinsert⟩ | ⟨rest, hinsert⟩
  · rw [hinsert]
    exact unchanged h (hunsettled _)
  by_cases hknown : o.id ∈ os.map (·.id)
  · rw [hinsert, perform_insert_of_mem h hknown]
    exact unchanged h (hunsettled _)
  -- The order is stored; what is left is to index it.
  rw [hinsert, perform_insert h hknown]
  have hstored : (Backends.mk ((os ++ [o]).map Documents.document) b.index).store.Holds
      (os ++ [o]) := h.append hknown ho
  have hagree := agreeOn_put hstored (o := o) (by simp) rfl rfl
  rcases indexing_cases ⟨(os ++ [o]).map Documents.document, b.index⟩ rest o with
    ⟨rest, hrun⟩ | ⟨rest, hrun⟩
  all_goals
    simp only [hrun]
  · refine ⟨⟨_, hstored⟩, fun id hne => sameAt_insert h (hid ▸ hne), .inr (.inl ?_)⟩
    exact ⟨.create, .store, .index, by rw [hid]⟩
  · refine ⟨⟨_, hstored⟩, fun id hne => ?_, .inl (by rw [hid]; exact hagree)⟩
    exact (sameAt_put (hid ▸ hne)).trans (sameAt_insert h (hid ▸ hne))

theorem deletion (h : b.store.Holds os) (id : String) :
    Progress ⟨.delete id, ((deletion id).run attempt (b, faults)).1⟩ b
      ((deletion id).run attempt (b, faults)).2.1 := by
  have hunsettled : ∀ result, ¬Event.Settles id ⟨.delete id, result⟩ :=
    fun result hsettles => nomatch hsettles.1
  rw [Service.deletion, Dialogue.run_ask]
  rcases attempt_cases (.remove id) b faults with ⟨setback, rest, hremove⟩ | ⟨rest, hremove⟩
  · rw [hremove]
    exact unchanged h (hunsettled _)
  by_cases hknown : id ∈ os.map (·.id)
  · -- The order is deleted from the store; what is left is to withdraw it from the index.
    rw [hremove, perform_remove h hknown]
    have hgone : (Backends.mk (b.store.remove id) b.index).store.findById id = none :=
      Collection.findById_remove_self ..
    have hagree := agreeOn_discard hgone
    rcases discarding_cases ⟨b.store.remove id, b.index⟩ rest id with
      ⟨rest, hrun⟩ | ⟨rest, hrun⟩
    all_goals
      simp only [hrun]
    · refine ⟨⟨_, h.filter id⟩, fun other hne => sameAt_remove hne, .inr (.inl ?_)⟩
      exact ⟨.delete, .store, .index, rfl⟩
    · refine ⟨⟨_, h.filter id⟩, fun other hne => ?_, .inl hagree⟩
      exact (sameAt_discard hne).trans (sameAt_remove hne)
  · rw [hremove, perform_remove_of_not_mem h hknown]
    exact unchanged h (hunsettled _)

theorem reconciliation (h : b.store.Holds os) (id : String) :
    Progress ⟨.reconcile id, ((reconciliation id).run attempt (b, faults)).1⟩ b
      ((reconciliation id).run attempt (b, faults)).2.1 := by
  have hunsettled : ∀ failure, (∀ unknown, failure ≠ .notFound unknown) →
      ¬Event.Settles id ⟨.reconcile id, .error failure⟩ := by
    rintro failure hfailure ⟨-, ⟨reply, hreply⟩ | ⟨unknown, hunknown⟩⟩
    · cases hreply
    · exact hfailure unknown (Except.error.inj hunknown)
  rw [Service.reconciliation, Dialogue.run_ask]
  rcases attempt_cases (.findById id) b faults with ⟨setback, rest, hfind⟩ | ⟨rest, hfind⟩
  · rw [hfind]
    exact unchanged h (hunsettled _ (failure_ne_notFound setback .store "lookup"))
  by_cases hknown : id ∈ os.map (·.id)
  · -- The store has not changed, so whatever reaches the index brings it in line.
    obtain ⟨o, ho, rfl⟩ := List.mem_map.mp hknown
    rw [hfind, perform_findById h ho]
    simp only [Documents.order_document (h.isStorable o ho)]
    rcases reindexing_cases b rest o.truncated with ⟨setback, rest, hrun⟩ | ⟨rest, hrun⟩
    · simp only [hrun]
      exact unchanged h (hunsettled _ (failure_ne_notFound setback .index "reindex"))
    · simp only [hrun]
      refine ⟨⟨os, h⟩, fun other hne => sameAt_put hne, .inl ?_⟩
      exact agreeOn_put h ho rfl (Order.toJson_truncated (h.isStorable o ho))
  · rw [hfind, perform_findById_of_not_mem h hknown]
    rcases withdrawing_cases b rest id with ⟨setback, rest, hrun⟩ | ⟨rest, hrun⟩
    · simp only [hrun]
      exact unchanged h (hunsettled _ (failure_ne_notFound setback .index "delete"))
    · simp only [hrun]
      refine ⟨⟨os, h⟩, fun other hne => sameAt_discard hne, .inl ?_⟩
      exact agreeOn_discard (h.findById_eq_none hknown)

theorem step {d : Demand} (hd : d.IsCurrent) (h : b.store.Holds os) :
    Progress ⟨d, (d.steps.run attempt (b, faults)).1⟩ b
      (d.steps.run attempt (b, faults)).2.1 := by
  cases d with
  | create input id now =>
      cases hmake : Order.make input id now with
      | error fault =>
          rw [steps_create_of_error hmake]
          exact unchanged h fun hsettles => nomatch hsettles.1
      | ok o =>
          rw [steps_create hmake]
          exact creation h (Order.isStorable_of_make hd hmake) (Order.id_of_make hmake).symm nofun
  | delete id =>
      rw [steps_delete]
      exact deletion h id
  | reconcile id =>
      rw [steps_reconcile]
      exact reconciliation h id

end Progress

/-! ### Whole runs -/

/-- Where the backends differ, a halfway write was reported and not settled since. -/
structure Tracked (log : List Event) (b : Backends) : Prop where
  holds : ∃ os, b.store.Holds os
  reported : ∀ id, ¬b.AgreeOn id → Reported log id

theorem Tracked.empty : Tracked [] {} :=
  ⟨⟨[], .nil⟩, fun id hdiffer => absurd (Backends.agreeOn_empty id) hdiffer⟩

theorem Tracked.step {log : List Event} {e : Event} {b b' : Backends} (h : Tracked log b)
    (hprogress : Progress e b b') : Tracked (log ++ [e]) b' where
  holds := hprogress.holds
  reported := by
    intro id hdiffer
    by_cases hid : id = e.demand.id
    · subst hid
      rcases hprogress.outcome with hagree | hreport | ⟨rfl, hunsettled⟩
      · exact absurd hagree hdiffer
      · exact .last hreport
      · exact (h.reported _ hdiffer).append hunsettled
    · -- Elsewhere nothing is touched, and an event settles only the identity it is about.
      have hbefore : ¬b.AgreeOn id := by
        rwa [(hprogress.elsewhere id hid).agreeOn_iff] at hdiffer
      refine (h.reported id hbefore).append fun hsettles => hid ?_
      rw [hsettles.1]
      rfl

/-- After any run from empty backends under any schedule of faults, an identity at which the
backends differ was reported to be written halfway, and has not been settled since. -/
theorem runAll_reports {demands : List Demand} (hcurrent : ∀ d ∈ demands, d.IsCurrent)
    (faults : List (Option Setback)) :
    let log := (runAll Backends.attempt demands ({}, faults)).1
    let b := (runAll Backends.attempt demands ({}, faults)).2.1
    ∀ id, ¬b.AgreeOn id → Reported log id := by
  let P := fun log (s : Backends × List (Option Setback)) => Tracked log s.1
  have hstep : ∀ d ∈ demands, ∀ log s, P log s →
      P (log ++ [⟨d, (d.steps.run Backends.attempt s).1⟩]) (d.steps.run Backends.attempt s).2 := by
    intro d hd log s h
    obtain ⟨os, hholds⟩ := h.holds
    exact h.step (Progress.step (hcurrent d hd) hholds)
  have hempty : P [] ({}, faults) := Tracked.empty
  exact (runAll_keeps hstep hempty).reported

/-- An order whose indexing fails is stored only. -/
theorem run_creation_setback (o : Order) (setback : Setback) :
    (creation o).run Backends.attempt ({}, [none, some setback]) =
      (.error (.halfDone o.id .create .store .index), ⟨[Documents.document o], {}⟩, []) := by
  have hempty : (Backends.mk [] {}).store.Holds [] := .nil
  have hinsert := Backends.perform_insert hempty (o := o) List.not_mem_nil
  simp only [creation, indexing, Dialogue.run_ask, Dialogue.run_done, Backends.attempt,
    List.head?_cons, List.tail_cons, Option.join_some, hinsert]
  rfl

theorem not_agreeOn_stored_only (o : Order) :
    ¬Backends.AgreeOn ⟨[Documents.document o], {}⟩ o.id := by
  have hfind : Collection.findById [Documents.document o] o.id = some (Documents.document o) := by
    simp [Collection.findById]
  rw [Backends.AgreeOn, hfind]
  exact id

/-- An order whose indexing is overdue makes the backends differ, and its creation reports so. -/
theorem runAll_reports_overdue :
    let demands : List Demand :=
      [.create { status := "NEW", city := "Bonn", lineItems := pens } "a" lateEvening]
    let faults := [none, some (Setback.overdue 20000)]
    let log := (runAll Backends.attempt demands ({}, faults)).1
    let b := (runAll Backends.attempt demands ({}, faults)).2.1
    (∀ d ∈ demands, d.IsCurrent) ∧ ¬b.AgreeOn "a" ∧ Reported log "a" := by
  intro demands faults log b
  have hcurrent : ∀ d ∈ demands, d.IsCurrent :=
    List.forall_mem_singleton.mpr lateEvening_isCurrent
  have hb : b = ⟨[Documents.document (pensOrder "a" "Bonn")], {}⟩ := by
    simp only [b, demands, faults, runAll, steps_create (make_pens "a" "Bonn"),
      run_creation_setback]
  have hdiffer : ¬b.AgreeOn "a" := by
    rw [hb]
    exact not_agreeOn_stored_only (pensOrder "a" "Bonn")
  exact ⟨hcurrent, hdiffer, runAll_reports hcurrent faults "a" hdiffer⟩

end Service

end OrderDesk
