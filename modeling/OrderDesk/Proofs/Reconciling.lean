import Mathlib.Tactic.Common
import OrderDesk.Proofs.Outcomes

/-! # Reconciling

The store and the index may be out of step: an identity may be stored only, indexed only, or
indexed with something else than what is stored. Reconciling it brings the index in line and
leaves all else as it is. What is in line stays so, however often it is reconciled again.
-/

namespace OrderDesk

open Documents (Collection)

/-- Where identities are distinct, a document is found under its own. -/
theorem Documents.Collection.findById_of_mem {c : Collection} {id : String} {d : Document}
    (hids : c.ids.Nodup) (hmem : d ∈ c) (hid : idOf d = some id) : c.findById id = some d := by
  induction c with
  | nil => cases hmem
  | cons first c ih =>
      rw [findById] at ih ⊢
      rcases List.mem_cons.mp hmem with rfl | hrest
      · simp [hid]
      · have hlater : id ∈ ids c := mem_ids_iff.mpr ⟨d, hrest, hid⟩
        cases hfirst : idOf first with
        | none =>
            rw [ids, List.filterMap_cons_none hfirst] at hids
            simpa [hfirst] using ih hids hrest
        | some other =>
            rw [ids, List.filterMap_cons_some hfirst, List.nodup_cons] at hids
            have hne : other ≠ id := fun heq => hids.1 (heq ▸ hlater)
            simpa [hfirst, hne] using ih hids.2 hrest

namespace Service

variable {id : String} {b : Backends}

/-! ### What reconciling does -/

/-- What comes of a call decides how work goes on that begins with it. -/
theorem run_request_bind {α : Type} (action : String) (c : Call) (f : c.Reply → Work α)
    (b : Backends) :
    Backends.run (request action c >>= f) b =
      match (b.perform c).1 with
      | .ok reply => Backends.run (f reply) (b.perform c).2
      | .error setback => (.error (setback.failure c.backend action), (b.perform c).2) := by
  have hrun : Backends.run (request action c >>= f) b =
      Dialogue.run Backends.perform
        (ExceptT.run (ExceptT.mk (match (b.perform c).1 with
          | .ok reply => .done (.ok reply)
          | .error setback => .done (.error (setback.failure c.backend action))) >>= f))
        (b.perform c).2 := rfl
  rw [hrun]
  cases (b.perform c).1 <;> rfl

/-- What is stored is indexed. -/
theorem run_reconcile {d : Document} {o : Order} (hstored : b.store.findById id = some d)
    (horder : Documents.order d = .ok o) :
    Backends.run (reconcile id) b = (.ok .reindexed, ⟨b.store, b.index.put o⟩) := by
  rw [reconcile, run_request_bind]
  simp only [Backends.perform, hstored, horder]
  rw [run_request_bind]
  rfl

/-- What is not stored is withdrawn from the index, if it is there. -/
theorem run_reconcile_of_not_stored (hnew : b.store.findById id = none) :
    Backends.run (reconcile id) b =
      (if b.index.contains id then .ok .removed else .error (.notFound id),
        ⟨b.store, b.index.discard id⟩) := by
  rw [reconcile, run_request_bind]
  simp only [Backends.perform, hnew]
  rw [run_request_bind]
  simp only [Backends.perform]
  cases b.index.contains id <;> rfl

/-! ### Convergence -/

/-- The index has the JSON form of the order that is stored under an identity, and nothing under
an identity that is not stored. -/
structure Backends.Mirrors (b : Backends) (id : String) : Prop where
  indexed : ∀ d ∈ b.store, Collection.idOf d = some id →
    ∃ o, Documents.order d = .ok o ∧ Fields.get? b.index.sources id = some o.toJson
  withdrawn : id ∉ b.store.ids → id ∉ b.index.ids

/-- What reconciling an identity answers, and what it leaves of the backends. -/
structure Reconciles (id : String) (b : Backends) (result : Except Failure Reconciled)
    (b' : Backends) : Prop where
  reindexed_iff : result = .ok .reindexed ↔ id ∈ b.store.ids
  removed_iff : result = .ok .removed ↔ id ∉ b.store.ids ∧ id ∈ b.index.ids
  notFound_iff : result = .error (.notFound id) ↔ id ∉ b.store.ids ∧ id ∉ b.index.ids
  mirrors : b'.Mirrors id
  store_eq : b'.store = b.store
  name_eq : b'.index.name = b.index.name
  /-- Sources under other identities stay, in sequence. -/
  elsewhere : Fields.without b'.index.sources id = Fields.without b.index.sources id

theorem Backends.contains_index_iff : b.index.contains id = true ↔ id ∈ b.index.ids := Fields.has_eq

theorem reconciles_of_stored {d : Document} {o : Order} (hids : b.store.ids.Nodup)
    (hstored : b.store.findById id = some d) (horder : Documents.order d = .ok o) :
    Reconciles id b (.ok .reindexed) ⟨b.store, b.index.put o⟩ := by
  have hid : o.id = id := Collection.id_of_findById hstored horder
  have hmem : id ∈ b.store.ids := Collection.mem_ids_of_findById hstored
  have hindexed : Fields.get? (b.index.put o).sources id = some o.toJson := by
    rw [← hid]
    exact Fields.get?_set_self ..
  have honly : ∀ other ∈ b.store, Collection.idOf other = some id → other = d := by
    intro other hother hotherId
    have hfound := Collection.findById_of_mem hids hother hotherId
    exact Option.some.inj (hfound.symm.trans hstored)
  have helsewhere : Fields.without (b.index.put o).sources id =
      Fields.without b.index.sources id := by
    rw [← hid]
    exact Fields.without_set ..
  exact {
    reindexed_iff := iff_of_true rfl hmem
    removed_iff := iff_of_false nofun fun h => h.1 hmem
    notFound_iff := iff_of_false nofun fun h => h.1 hmem
    mirrors := {
      indexed := fun other hother hotherId =>
        ⟨o, honly other hother hotherId ▸ horder, hindexed⟩
      withdrawn := fun hnew => absurd hmem hnew }
    store_eq := rfl
    name_eq := rfl
    elsewhere := helsewhere }

theorem reconciles_of_not_stored (hnew : b.store.findById id = none) :
    Reconciles id b (if b.index.contains id then .ok .removed else .error (.notFound id))
      ⟨b.store, b.index.discard id⟩ := by
  have hunknown : id ∉ b.store.ids := Collection.not_mem_ids_of_findById hnew
  have hwithdrawn : id ∉ (b.index.discard id).ids :=
    fun hmem => (Backends.mem_ids_discard.mp hmem).1 rfl
  have hremoved : b.index.contains id = true ↔ id ∉ b.store.ids ∧ id ∈ b.index.ids :=
    Backends.contains_index_iff.trans (and_iff_right hunknown).symm
  have hnotFound : b.index.contains id ≠ true ↔ id ∉ b.store.ids ∧ id ∉ b.index.ids :=
    Backends.contains_index_iff.not.trans (and_iff_right hunknown).symm
  exact {
    reindexed_iff := iff_of_false (by split <;> exact nofun) hunknown
    removed_iff := by rw [← hremoved]; split <;> simp [*]
    notFound_iff := by rw [← hnotFound]; split <;> simp [*]
    mirrors := {
      indexed := fun d hd hid =>
        absurd (Collection.mem_ids_iff.mpr ⟨d, hd, hid⟩) hunknown
      withdrawn := fun _ => hwithdrawn }
    store_eq := rfl
    name_eq := rfl
    elsewhere := Fields.without_without .. }

/-- Where the index mirrors the store at an identity, reconciling it changes nothing. -/
theorem run_reconcile_of_mirrors (h : b.Mirrors id) :
    Backends.run (reconcile id) b =
      (if id ∈ b.store.ids then .ok .reindexed else .error (.notFound id), b) := by
  cases hfind : b.store.findById id with
  | some d =>
      have hmem : d ∈ b.store := List.mem_of_find?_eq_some hfind
      obtain ⟨o, horder, hsource⟩ := h.indexed d hmem (Collection.idOf_of_findById hfind)
      obtain rfl : o.id = id := Collection.id_of_findById hfind horder
      have hput : b.index.put o = b.index := by rw [Search.Index.put, Fields.set_of_get? hsource]
      rw [run_reconcile hfind horder, hput, if_pos (Collection.mem_ids_of_findById hfind)]
  | none =>
      have hnew : id ∉ b.store.ids := Collection.not_mem_ids_of_findById hfind
      have hunknown : id ∉ b.index.ids := h.withdrawn hnew
      have hdiscard : b.index.discard id = b.index := by
        rw [Search.Index.discard, Fields.without_of_not_mem hunknown]
      rw [run_reconcile_of_not_stored hfind, hdiscard, if_neg hnew,
        if_neg (Backends.contains_index_iff.not.mpr hunknown)]

theorem reconciles_run (hids : b.store.ids.Nodup)
    (hdecodes : ∀ d ∈ b.store, ∃ o, Documents.order d = .ok o) (id : String) :
    Reconciles id b (Backends.run (reconcile id) b).1 (Backends.run (reconcile id) b).2 := by
  cases hfind : b.store.findById id with
  | some d =>
      obtain ⟨o, horder⟩ := hdecodes d (List.mem_of_find?_eq_some hfind)
      rw [run_reconcile hfind horder]
      exact reconciles_of_stored hids hfind horder
  | none =>
      rw [run_reconcile_of_not_stored hfind]
      exact reconciles_of_not_stored hfind

/-- Whatever is indexed, reconciling an identity leaves a mirror of what is stored, touches nothing
else, and is answered by what was known. A second time changes nothing and is answered alike,
except that an order that was removed is not found. -/
theorem reconcile_converges {b : Backends} (hids : b.store.ids.Nodup)
    (hdecodes : ∀ d ∈ b.store, ∃ o, Documents.order d = .ok o) (id : String) :
    let first := Backends.run (reconcile id) b
    let second := Backends.run (reconcile id) first.2
    Reconciles id b first.1 first.2 ∧ second.2 = first.2 ∧
      (first.1 = .ok .reindexed → second.1 = .ok .reindexed) ∧
      (first.1 = .ok .removed ∨ first.1 = .error (.notFound id) →
        second.1 = .error (.notFound id)) := by
  intro first second
  have hfirst : Reconciles id b first.1 first.2 := reconciles_run hids hdecodes id
  have hsecond : second =
      (if id ∈ b.store.ids then .ok .reindexed else .error (.notFound id), first.2) := by
    rw [← hfirst.store_eq]
    exact run_reconcile_of_mirrors hfirst.mirrors
  rw [hsecond]
  refine ⟨hfirst, rfl, fun hreindexed => if_pos (hfirst.reindexed_iff.mp hreindexed), ?_⟩
  rintro (hremoved | hnotFound)
  · exact if_neg (hfirst.removed_iff.mp hremoved).1
  · exact if_neg (hfirst.notFound_iff.mp hnotFound).1

/-- A stored order whose source in the index is empty is indexed anew. -/
theorem reconcile_converges_stale :
    let b : Backends :=
      { store := [Documents.document (pensOrder "a" "Bonn")]
        index := { sources := [("a", .null), ("b", .string "gone")] } }
    let first := Backends.run (reconcile "a") b
    let second := Backends.run (reconcile "a") first.2
    b.store.ids.Nodup ∧ (∀ d ∈ b.store, ∃ o, Documents.order d = .ok o) ∧
      Reconciles "a" b first.1 first.2 ∧ second.2 = first.2 ∧
      first.1 = .ok .reindexed ∧ second.1 = .ok .reindexed := by
  intro b first second
  have hids : b.store.ids = ["a"] := Collection.ids_map_document [pensOrder "a" "Bonn"]
  have hnodup : b.store.ids.Nodup := by
    rw [hids]
    exact List.nodup_singleton "a"
  have hdecodes : ∀ d ∈ b.store, ∃ o, Documents.order d = .ok o := by
    intro d hd
    rw [List.mem_singleton.mp hd]
    exact ⟨_, Documents.order_document (pensOrder_isMade "a" "Bonn").isStorable⟩
  obtain ⟨hfirst, hsame, hagain, -⟩ := reconcile_converges hnodup hdecodes "a"
  have hreindexed : first.1 = .ok .reindexed := by
    rw [hfirst.reindexed_iff, hids]
    exact List.mem_singleton_self "a"
  exact ⟨hnodup, hdecodes, hfirst, hsame, hreindexed, hagain hreindexed⟩

/-! ### One identity after the other -/

/-- Reconciling one identity leaves the mirror of another. -/
theorem Reconciles.mirrors_of_ne {other : String} {result : Except Failure Reconciled}
    {b' : Backends} (h : Reconciles id b result b') (hne : other ≠ id) (hb : b.Mirrors other) :
    b'.Mirrors other := by
  have hget : Fields.get? b'.index.sources other = Fields.get? b.index.sources other := by
    rw [← Fields.get?_without_of_ne hne, h.elsewhere, Fields.get?_without_of_ne hne]
  constructor
  · rw [h.store_eq, hget]
    exact hb.indexed
  · intro hnew
    rw [h.store_eq] at hnew
    have hunknown : Fields.get? b.index.sources other = none :=
      Fields.get?_eq_none.mpr (hb.withdrawn hnew)
    exact Fields.get?_eq_none.mp (hget.trans hunknown)

/-- Reconciling identities one after the other leaves a mirror of the store at each of them, and
wherever there was one. -/
theorem mirrors_of_reconciling {b : Backends} (hids : b.store.ids.Nodup)
    (hdecodes : ∀ d ∈ b.store, ∃ o, Documents.order d = .ok o) (ids : List String) (id : String)
    (h : id ∈ ids ∨ b.Mirrors id) :
    (ids.foldl (fun b id => (Backends.run (reconcile id) b).2) b).Mirrors id := by
  induction ids generalizing b with
  | nil => exact h.resolve_left List.not_mem_nil
  | cons first ids ih =>
      have hfirst := reconciles_run hids hdecodes first
      have hstore := hfirst.store_eq
      refine ih (hstore ▸ hids) (hstore ▸ hdecodes) ?_
      by_cases heq : id = first
      · exact .inr (heq ▸ hfirst.mirrors)
      · rcases h with hmem | hb
        · exact .inl ((List.mem_cons.mp hmem).resolve_left heq)
        · exact .inr (hfirst.mirrors_of_ne heq hb)

end Service

end OrderDesk
