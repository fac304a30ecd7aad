import Mathlib.Tactic.Common
import OrderDesk.Proofs.Faults
import OrderDesk.Proofs.Interleaving

/-! # What the result of a demand tells

The backends may be in any state when a demand comes, and any of its calls may fail without an
effect. The result still tells what has become of them: all that was demanded after a success, the
half that concerns the store after a write that stopped halfway, and nothing after any other
failure. Whatever the result, the other identities keep what they had, in the same sequence.
-/

namespace OrderDesk

open Documents (Collection)

namespace Fields

variable {α : Type}

/-- Writing under a name leaves the entries under other names in sequence. -/
theorem without_set (fs : Fields α) (name : String) (value : α) :
    without (set fs name value) name = without fs name := by
  induction fs with
  | nil => simp [set, without]
  | cons entry fs ih =>
      unfold set
      split
      · next hname => simp [without, hname]
      · next hname =>
        simp only [without] at ih ⊢
        rw [List.filter_cons, List.filter_cons, ih]

theorem without_without (fs : Fields α) (name : String) :
    without (without fs name) name = without fs name := by
  simp [without, List.filter_filter]

end Fields

namespace Documents.Collection

theorem mem_ids_iff {c : Collection} {id : String} : id ∈ c.ids ↔ ∃ d ∈ c, idOf d = some id :=
  List.mem_filterMap

theorem any_idOf_iff {c : Collection} {id : String} :
    c.any (idOf · = some id) = true ↔ id ∈ c.ids := by
  simp [mem_ids_iff]

/-- Storing an order puts its document at the end, if its identity is new. -/
theorem eq_append_of_insert {c c' : Collection} {o : Order} (h : c.insert o = .ok c') :
    o.id ∉ c.ids ∧ c' = c ++ [document o] := by
  simp only [insert, ofOrder_eq] at h
  split at h
  · cases h
  · next hnew =>
    rw [any_idOf_iff] at hnew
    exact ⟨hnew, (Except.ok.inj h).symm⟩

/-- A deletion that makes the store shorter has found its identity there. -/
theorem mem_ids_of_remove {c : Collection} {id : String}
    (h : (c.remove id).length ≠ c.length) : id ∈ c.ids := by
  by_contra hnew
  apply h
  rw [remove, List.length_filter_eq_length_iff]
  intro d hd
  have hid : idOf d ≠ some id := fun heq => hnew (mem_ids_iff.mpr ⟨d, hd, heq⟩)
  simpa using hid

theorem remove_remove (c : Collection) (id : String) : remove (remove c id) id = remove c id := by
  rw [remove, remove, List.filter_filter]
  congr 1
  ext d
  exact Bool.and_self _

theorem not_mem_ids_remove (c : Collection) (id : String) : id ∉ (c.remove id).ids := by
  rw [mem_ids_iff]
  rintro ⟨d, hd, hid⟩
  simpa [hid] using (List.mem_filter.mp hd).2

theorem idOf_of_findById {c : Collection} {id : String} {d : Document}
    (h : c.findById id = some d) : idOf d = some id := by
  simpa using List.find?_some h

theorem mem_ids_of_findById {c : Collection} {id : String} {d : Document}
    (h : c.findById id = some d) : id ∈ c.ids :=
  mem_ids_iff.mpr ⟨d, List.mem_of_find?_eq_some h, idOf_of_findById h⟩

theorem not_mem_ids_of_findById {c : Collection} {id : String} (h : c.findById id = none) :
    id ∉ c.ids := by
  rw [mem_ids_iff]
  rintro ⟨d, hd, hid⟩
  rw [findById, List.find?_eq_none] at h
  exact h d hd (by simpa using hid)

/-- The identity of a document is the one that its order is read with. -/
theorem id_of_findById {c : Collection} {id : String} {d : Document} {o : Order}
    (hfind : c.findById id = some d) (horder : order d = .ok o) : o.id = id := by
  have hid := idOf_of_findById hfind
  rw [idOf] at hid
  obtain ⟨v, hv, htext⟩ := Option.bind_eq_some_iff.mp hid
  cases v with
  | string text =>
      obtain rfl := Option.some.inj htext
      exact id_of_order hv horder
  | _ => cases htext

end Documents.Collection

namespace Service

/-! ### What may become of the backends -/

/-- What the backends hold under other identities, in sequence. -/
def Backends.besides (b : Backends) (id : String) : List Document × Fields Json :=
  (b.store.filter fun d => Collection.idOf d ≠ some id,
    b.index.sources.filter fun entry => entry.1 ≠ id)

/-- The half of a write that concerns the store: the document of a new order goes to the end, and
what is stored under a known identity is taken out. Reconciling does not write the store. -/
inductive StoreHalf : Demand → Operation → Collection → Collection → Prop
  | insertion {input : OrderInput} {id : String} {now : Calendar.Instant} {o : Order}
      {d : Document} {c : Collection} (hmake : Order.make input id now = .ok o)
      (hdocument : Documents.ofOrder o = .ok d) (hnew : id ∉ c.ids) :
      StoreHalf (.create input id now) .create c (c ++ [d])
  | removal {id : String} {c : Collection} (hknown : id ∈ c.ids) :
      StoreHalf (.delete id) .delete c (c.filter fun d => Collection.idOf d ≠ some id)

/-- All of what was demanded: both halves of a write, or the index brought in line. -/
inductive Accomplished : Demand → Reply → Backends → Backends → Prop
  | created {input : OrderInput} {id : String} {now : Calendar.Instant} {o : Order}
      {b : Backends} {store : Collection} (hmake : Order.make input id now = .ok o)
      (hstore : StoreHalf (.create input id now) .create b.store store) :
      Accomplished (.create input id now) (.created o) b ⟨store, b.index.put o⟩
  | deleted {id : String} {b : Backends} {store : Collection}
      (hstore : StoreHalf (.delete id) .delete b.store store) :
      Accomplished (.delete id) .deleted b ⟨store, b.index.discard id⟩
  | reindexed {id : String} {d : Document} {o : Order} {b : Backends}
      (hstored : b.store.findById id = some d) (horder : Documents.order d = .ok o) :
      Accomplished (.reconcile id) (.reconciled .reindexed) b ⟨b.store, b.index.put o⟩
  | removed {id : String} {b : Backends} (hnew : id ∉ b.store.ids) (hknown : id ∈ b.index.ids) :
      Accomplished (.reconcile id) (.reconciled .removed) b ⟨b.store, b.index.discard id⟩

/-- Whether the backends hold an order after a success. -/
def Reply.Holds : Reply → Prop
  | created _ | reconciled .reindexed => True
  | deleted | reconciled .removed => False

/-- The result of a demand tells what has become of the backends. -/
structure Event.Tells (e : Event) (b b' : Backends) : Prop where
  /-- After a write that stopped halfway, precisely the half of the store is done. -/
  halfway : ∀ id operation completed pending,
    e.result = .error (.halfDone id operation completed pending) →
      id = e.demand.id ∧ completed = .store ∧ pending = .index ∧
        StoreHalf e.demand operation b.store b'.store ∧ b'.index = b.index
  /-- After any other failure, nothing has changed. -/
  failed : ∀ failure, e.result = .error failure →
    (∀ id operation completed pending, failure ≠ .halfDone id operation completed pending) →
      b' = b
  /-- After a success everything is done, and both backends know the identity or neither does. -/
  succeeded : ∀ reply, e.result = .ok reply → Accomplished e.demand reply b b' ∧
    (e.demand.id ∈ b'.store.ids ↔ reply.Holds) ∧ (e.demand.id ∈ b'.index.ids ↔ reply.Holds)
  elsewhere : b'.besides e.demand.id = b.besides e.demand.id

/-! ### What a half keeps and brings about -/

namespace StoreHalf

variable {d : Demand} {operation : Operation} {c c' : Collection}

theorem elsewhere (h : StoreHalf d operation c c') :
    (c'.filter fun document => Collection.idOf document ≠ some d.id) =
      c.filter fun document => Collection.idOf document ≠ some d.id := by
  cases h with
  | @insertion input id now o document c hmake hdocument hnew =>
      have hid : Collection.idOf document = some id := by
        rw [Documents.ofOrder_eq] at hdocument
        rw [← Except.ok.inj hdocument, Collection.idOf_document, Order.id_of_make hmake]
      simp [List.filter_append, hid, Demand.id]
  | removal hknown => exact Collection.remove_remove ..

/-- A store knows the identity of what was put into it, and no longer that of what was taken out. -/
theorem mem_ids_iff (h : StoreHalf d operation c c') :
    d.id ∈ Collection.ids c' ↔ operation = .create := by
  cases h with
  | @insertion input id now o document c hmake hdocument hnew =>
      have hid : Collection.idOf document = some id := by
        rw [Documents.ofOrder_eq] at hdocument
        rw [← Except.ok.inj hdocument, Collection.idOf_document, Order.id_of_make hmake]
      have hmem : id ∈ Collection.ids (c ++ [document]) :=
        Collection.mem_ids_iff.mpr ⟨document, by simp, hid⟩
      exact iff_of_true hmem rfl
  | @removal id c hknown => exact iff_of_false (Collection.not_mem_ids_remove c id) nofun

end StoreHalf

namespace Accomplished

variable {d : Demand} {reply : Reply} {b b' : Backends}

theorem elsewhere (h : Accomplished d reply b b') : b'.besides d.id = b.besides d.id := by
  cases h with
  | created hmake hstore =>
      have hid := Order.id_of_make hmake
      apply Prod.ext
      · exact hstore.elsewhere
      · rw [← hid]
        exact Fields.without_set ..
  | deleted hstore =>
      apply Prod.ext
      · exact hstore.elsewhere
      · exact Fields.without_without ..
  | reindexed hstored horder =>
      have hid := Collection.id_of_findById hstored horder
      apply Prod.ext
      · rfl
      · rw [← hid]
        exact Fields.without_set ..
  | removed hnew hknown =>
      apply Prod.ext
      · rfl
      · exact Fields.without_without ..

/-- Both backends know the identity after a success, or neither does. -/
theorem mem_ids_iff (h : Accomplished d reply b b') :
    (d.id ∈ b'.store.ids ↔ reply.Holds) ∧ (d.id ∈ b'.index.ids ↔ reply.Holds) := by
  cases h with
  | created hmake hstore =>
      constructor
      · exact hstore.mem_ids_iff.trans (iff_of_true rfl trivial)
      · exact iff_of_true (Backends.mem_ids_put.mpr (.inl (Order.id_of_make hmake))) trivial
  | deleted hstore =>
      constructor
      · exact hstore.mem_ids_iff.trans (iff_of_false nofun id)
      · exact iff_of_false (fun hmem => (Backends.mem_ids_discard.mp hmem).1 rfl) id
  | reindexed hstored horder =>
      have hid := Collection.id_of_findById hstored horder
      constructor
      · exact iff_of_true (Collection.mem_ids_of_findById hstored) trivial
      · exact iff_of_true (Backends.mem_ids_put.mpr (.inl hid)) trivial
  | removed hnew hknown =>
      constructor
      · exact iff_of_false hnew id
      · exact iff_of_false (fun hmem => (Backends.mem_ids_discard.mp hmem).1 rfl) id

end Accomplished

/-! ### The work on each demand -/

namespace Event.Tells

open Backends

variable {d : Demand} {b : Backends} {faults : List (Option Setback)}

theorem of_failure {failure : Failure}
    (h : ∀ id operation completed pending,
      failure ≠ .halfDone id operation completed pending) :
    Tells ⟨d, .error failure⟩ b b where
  halfway id operation completed pending heq :=
    absurd (Except.error.inj heq) (h id operation completed pending)
  failed _ _ _ := rfl
  succeeded _ heq := nomatch heq
  elsewhere := rfl

/-- A caller who is told of a setback is told that nothing has changed. -/
theorem of_setback (setback : Setback) (backend : Backend) (action : String) :
    Tells ⟨d, .error (setback.failure backend action)⟩ b b := by
  apply of_failure
  cases setback <;> exact nofun

theorem of_half {operation : Operation} {store : Collection}
    (h : StoreHalf d operation b.store store) :
    Tells ⟨d, .error (.halfDone d.id operation .store .index)⟩ b ⟨store, b.index⟩ where
  halfway := by
    rintro id operation completed pending heq
    cases heq
    exact ⟨rfl, rfl, rfl, h, rfl⟩
  failed := by
    intro failure heq hother
    exact absurd (Except.error.inj heq).symm (hother d.id operation .store .index)
  succeeded _ heq := nomatch heq
  elsewhere := Prod.ext h.elsewhere rfl

theorem of_reply {reply : Reply} {b' : Backends} (h : Accomplished d reply b b') :
    Tells ⟨d, .ok reply⟩ b b' where
  halfway _ _ _ _ heq := nomatch heq
  failed _ heq := nomatch heq
  succeeded := by
    rintro reply heq
    cases heq
    exact ⟨h, h.mem_ids_iff⟩
  elsewhere := h.elsewhere

theorem creation {input : OrderInput} {id : String} {now : Calendar.Instant} {o : Order}
    (hmake : Order.make input id now = .ok o) :
    Tells ⟨.create input id now, ((creation o).run attempt (b, faults)).1⟩ b
      ((creation o).run attempt (b, faults)).2.1 := by
  have hid := Order.id_of_make hmake
  rw [Service.creation, Dialogue.run_ask]
  rcases attempt_cases (.insert o) b faults with ⟨setback, rest, hcall⟩ | ⟨rest, hcall⟩
  · rw [hcall]
    exact of_setback ..
  rw [hcall, perform]
  cases hinsert : b.store.insert o with
  | error setback => exact of_setback ..
  | ok store =>
      -- The order is stored; whether it is indexed too is all that is left open.
      obtain ⟨hnew, rfl⟩ := Collection.eq_append_of_insert hinsert
      have hstore : StoreHalf (.create input id now) .create b.store
          (b.store ++ [Documents.document o]) :=
        .insertion hmake (Documents.ofOrder_eq o) (hid ▸ hnew)
      rcases indexing_cases ⟨b.store ++ [Documents.document o], b.index⟩ rest o with
        ⟨rest, hrun⟩ | ⟨rest, hrun⟩
      · simp only [hrun, hid]
        exact of_half hstore
      · simp only [hrun]
        exact of_reply (.created hmake hstore)

theorem deletion (id : String) :
    Tells ⟨.delete id, ((deletion id).run attempt (b, faults)).1⟩ b
      ((deletion id).run attempt (b, faults)).2.1 := by
  rw [Service.deletion, Dialogue.run_ask]
  rcases attempt_cases (.remove id) b faults with ⟨setback, rest, hcall⟩ | ⟨rest, hcall⟩
  · rw [hcall]
    exact of_setback ..
  rw [hcall, perform]
  cases hlength : (b.store.remove id).length != b.store.length with
  | false =>
      have hsame : b.store.remove id = b.store := remove_eq_self (by simpa using hlength)
      simp only [hsame]
      apply of_failure
      rintro _ _ _ _ ⟨⟩
  | true =>
      have hstore : StoreHalf (.delete id) .delete b.store (b.store.remove id) :=
        .removal (Collection.mem_ids_of_remove (by simpa using hlength))
      rcases discarding_cases ⟨b.store.remove id, b.index⟩ rest id with
        ⟨rest, hrun⟩ | ⟨rest, hrun⟩
      · simp only [hrun]
        exact of_half hstore
      · simp only [hrun]
        exact of_reply (.deleted hstore)

theorem reconciliation (id : String) :
    Tells ⟨.reconcile id, ((reconciliation id).run attempt (b, faults)).1⟩ b
      ((reconciliation id).run attempt (b, faults)).2.1 := by
  rw [Service.reconciliation, Dialogue.run_ask]
  rcases attempt_cases (.findById id) b faults with ⟨setback, rest, hcall⟩ | ⟨rest, hcall⟩
  · rw [hcall]
    exact of_setback ..
  rw [hcall, perform]
  cases hfind : b.store.findById id with
  | none =>
      have hnew := Collection.not_mem_ids_of_findById hfind
      rcases withdrawing_cases b rest id with ⟨setback, rest, hrun⟩ | ⟨rest, hrun⟩
      · simp only [hrun]
        exact of_setback ..
      · simp only [hrun]
        cases hknown : b.index.contains id with
        | true => exact of_reply (.removed hnew (Fields.has_eq.mp hknown))
        | false =>
            -- Neither backend knows the identity, so there was nothing to withdraw.
            have hunknown : id ∉ Fields.names b.index.sources := by
              rw [← Fields.has_eq]
              simpa [Search.Index.contains] using hknown
            rw [Search.Index.discard, Fields.without_of_not_mem hunknown]
            apply of_failure
            rintro _ _ _ _ ⟨⟩
  | some document =>
      cases horder : Documents.order document with
      | error flaw =>
          simp only [horder]
          apply of_failure
          rintro _ _ _ _ ⟨⟩
      | ok o =>
          simp only [horder]
          rcases reindexing_cases b rest o with ⟨setback, rest, hrun⟩ | ⟨rest, hrun⟩
          · simp only [hrun]
            exact of_setback ..
          · simp only [hrun]
            exact of_reply (.reindexed hfind horder)

end Event.Tells

/-- Whatever the backends hold and whichever calls fail, the result of a demand tells what has
become of them. -/
theorem result_tells_effect (d : Demand) (b : Backends) (faults : List (Option Setback)) :
    let result := (d.steps.run Backends.attempt (b, faults)).1
    let b' := (d.steps.run Backends.attempt (b, faults)).2.1
    Event.Tells ⟨d, result⟩ b b' := by
  cases d with
  | create input id now =>
      cases hmake : Order.make input id now with
      | error fault =>
          rw [steps_create_of_error hmake]
          exact .of_failure nofun
      | ok o =>
          rw [steps_create hmake]
          exact .creation hmake
  | delete id =>
      rw [steps_delete]
      exact .deletion id
  | reconcile id =>
      rw [steps_reconcile]
      exact .reconciliation id

end Service

end OrderDesk
