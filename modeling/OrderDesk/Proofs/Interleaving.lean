import Mathlib.Tactic.Common
import OrderDesk.Proofs.Agreement
import OrderDesk.Proofs.Demands

/-! # Interleaved demands

Work on several demands may be under way at once, with the calls of one between those of another.
Nothing keeps a write to the index from being overtaken: what it follows from may have changed in
the store by then. The backends end up with the same identities exactly where the last write to
the index was borne out by the store at the moment when it was made.
-/

namespace OrderDesk

open Documents (Collection)
open Search (Index)

namespace Service

/-! ### Work under way -/

/-- A call that is made, and the backends at that moment. -/
structure Moment where
  call : Call
  backends : Backends

/-- Work on demands, what is left of each, and the calls that were made so far. -/
structure Underway where
  works : List Steps
  backends : Backends
  moments : List Moment := []

namespace Underway

def start (demands : List Demand) (b : Backends) : Underway where
  works := demands.map Demand.steps
  backends := b

/-- Makes the next call of the work at a position, if it is not done. -/
def step (s : Underway) (i : Nat) : Underway :=
  match s.works[i]? with
  | some (.ask c next) =>
    { works := s.works.set i (next (s.backends.perform c).1)
      backends := (s.backends.perform c).2
      moments := s.moments ++ [⟨c, s.backends⟩] }
  | _ => s

/-- Makes calls of the works at some positions, one after the other. -/
def run (s : Underway) (schedule : List Nat) : Underway := schedule.foldl step s

/-- All demands have their results. -/
def Finished (s : Underway) (results : List Result) : Prop := s.works = results.map .done

end Underway

/-! ### Writes to the index -/

/-- Whether an identity is indexed after a call that writes it. -/
def Call.indexes? (id : String) : Call → Option Bool
  | .put o => if o.id = id then some true else none
  | .discard other => if other = id then some false else none
  | _ => none

/-- The last write of an identity to the index. -/
def lastWrite? (id : String) (moments : List Moment) : Option Moment :=
  (moments.filter fun m => (m.call.indexes? id).isSome).getLast?

/-- The store knows an identity that is indexed, and does not know one that is withdrawn. -/
def Moment.IsBorneOut (id : String) (m : Moment) : Prop :=
  ∀ indexed, m.call.indexes? id = some indexed →
    (id ∈ m.backends.store.ids ↔ indexed = true)

theorem lastWrite?_append (id : String) (moments : List Moment) (m : Moment) :
    lastWrite? id (moments ++ [m]) =
      if (m.call.indexes? id).isSome then some m else lastWrite? id moments := by
  rw [lastWrite?, List.filter_append]
  by_cases h : (m.call.indexes? id).isSome = true <;> simp [lastWrite?, h]

theorem indexes?_of_lastWrite? {id : String} {moments : List Moment} {m : Moment}
    (h : lastWrite? id moments = some m) : ∃ indexed, m.call.indexes? id = some indexed := by
  have hmem : m ∈ moments.filter fun m => (m.call.indexes? id).isSome :=
    List.mem_of_getLast? h
  exact Option.isSome_iff_exists.mp (List.mem_filter.mp hmem).2

/-! ### What calls do to the identities -/

namespace Backends

theorem mem_ids_put {b : Backends} {id : String} {o : Order} :
    id ∈ (b.perform (.put o)).2.index.ids ↔ o.id = id ∨ id ∈ b.index.ids := by
  simp only [perform, Index.put, Index.ids, Fields.names_set]
  split
  · next hmem =>
    constructor
    · exact .inr
    · rintro (rfl | h)
      · exact hmem
      · exact h
  · simp [or_comm, eq_comm]

theorem mem_ids_discard {b : Backends} {id other : String} :
    id ∈ (b.perform (.discard other)).2.index.ids ↔ other ≠ id ∧ id ∈ b.index.ids := by
  simp only [perform, Index.discard, Index.ids, Fields.names, Fields.without, List.mem_map,
    List.mem_filter]
  constructor
  · rintro ⟨entry, ⟨hmem, hne⟩, rfl⟩
    exact ⟨fun heq => by simp [heq] at hne, entry, hmem, rfl⟩
  · rintro ⟨hne, entry, hmem, rfl⟩
    exact ⟨entry, ⟨hmem, by simpa using Ne.symm hne⟩, rfl⟩

/-- A write to the index decides whether the identity is indexed, and no other call does. -/
theorem mem_index_perform (b : Backends) (c : Call) (id : String) :
    id ∈ (b.perform c).2.index.ids ↔
      ((c.indexes? id).getD (decide (id ∈ b.index.ids))) = true := by
  cases c with
  | put o =>
      rw [mem_ids_put, Call.indexes?]
      by_cases h : o.id = id <;> simp [h]
  | discard other =>
      rw [mem_ids_discard, Call.indexes?]
      by_cases h : other = id <;> simp [h]
  | insert o =>
      simp only [perform, Call.indexes?]
      split <;> simp
  | find q => simp [perform, Call.indexes?]
  | findById other => simp [perform, Call.indexes?]
  | remove other => simp [perform, Call.indexes?]
  | search body => simp [perform, Call.indexes?]

/-- A write to the index leaves the store alone. -/
theorem store_perform_of_indexes? {b : Backends} {c : Call} {id : String}
    (h : (c.indexes? id).isSome = true) : (b.perform c).2.store = b.store := by
  cases c with
  | put o | discard other => rfl
  | insert o | find q | findById other | remove other | search body => cases h

end Backends

/-! ### Writes to the store are followed up -/

/-- What is left of some work begins with a write of an identity to the index. -/
def IndexesNext (id : String) (w : Steps) : Prop :=
  ∃ c next, w = .ask c next ∧ (c.indexes? id).isSome = true

/-- A call that does not write an identity is not the work that is to write it next. -/
theorem exists_indexesNext_set {works : List Steps} {i : Nat} {c : Call} {next : c.Outcome → Steps}
    {id : String} (hwork : works[i]? = some (.ask c next)) (hindexes : c.indexes? id = none)
    (h : ∃ w ∈ works, IndexesNext id w) (rest : Steps) :
    ∃ w ∈ works.set i rest, IndexesNext id w := by
  obtain ⟨w, hw, hnext⟩ := h
  obtain ⟨j, hj⟩ := List.mem_iff_getElem?.mp hw
  have hne : i ≠ j := by
    rintro rfl
    obtain ⟨c', next', rfl, hsome⟩ := hnext
    rw [hwork] at hj
    cases hj
    rw [hindexes] at hsome
    cases hsome
  exact ⟨w, List.mem_iff_getElem?.mpr ⟨j, by rw [List.getElem?_set_ne hne, hj]⟩, hnext⟩

/-- Work that follows up every change of the store with a write to the index, and then ends with
no halfway result. -/
inductive FollowsUp : Steps → Prop where
  | done {result : Result}
      (h : ∀ id operation completed pending,
        result ≠ .error (.halfDone id operation completed pending)) :
      FollowsUp (.done result)
  | ask {c : Call} {next : c.Outcome → Steps}
      (hrest : ∀ b : Backends, FollowsUp (next (b.perform c).1))
      (hindexes : ∀ (b : Backends) (id : String),
        ¬(id ∈ (b.perform c).2.store.ids ↔ id ∈ b.store.ids) →
          IndexesNext id (next (b.perform c).1)) :
      FollowsUp (.ask c next)

theorem mem_ids_insert {c c' : Collection} {o : Order} {id : String} (h : c.insert o = .ok c')
    (hne : o.id ≠ id) : id ∈ c'.ids ↔ id ∈ c.ids := by
  simp only [Collection.insert, Documents.ofOrder_eq] at h
  split at h
  · cases h
  · obtain rfl := Except.ok.inj h
    have hne' : id ≠ o.id := Ne.symm hne
    simp [Collection.ids, List.filterMap_append, hne']

theorem mem_ids_remove {c : Collection} {id other : String} (hne : other ≠ id) :
    id ∈ (c.remove other).ids ↔ id ∈ c.ids := by
  simp only [Collection.ids, Collection.remove, List.mem_filterMap, List.mem_filter]
  constructor
  · rintro ⟨d, ⟨hmem, -⟩, hid⟩
    exact ⟨d, hmem, hid⟩
  · rintro ⟨d, hmem, hid⟩
    exact ⟨d, ⟨hmem, by simpa [hid] using Ne.symm hne⟩, hid⟩

/-- A deletion that leaves the store as long as it was has deleted nothing. -/
theorem remove_eq_self {c : Collection} {id : String}
    (h : (c.remove id).length = c.length) : c.remove id = c :=
  List.filter_eq_self.mpr (List.length_filter_eq_length_iff.mp h)

namespace FollowsUp

theorem succeeded (reply : Reply) : FollowsUp (.done (.ok reply)) :=
  .done fun _ _ _ _ heq => by cases heq

theorem failed {failure : Failure}
    (h : ∀ id operation completed pending,
      failure ≠ .halfDone id operation completed pending) :
    FollowsUp (.done (.error failure)) :=
  .done fun id operation completed pending heq =>
    h id operation completed pending (Except.error.inj heq)

theorem unknown (id : String) : FollowsUp (.done (.error (.notFound id))) :=
  failed fun _ _ _ _ heq => by cases heq

theorem setback (setback : Setback) (backend : Backend) (action : String) :
    FollowsUp (.done (.error (setback.failure backend action))) := by
  refine failed fun _ _ _ _ heq => ?_
  cases setback <;> cases heq

/-- A call that leaves the store alone needs no follow-up. -/
theorem ask_of_store_eq {c : Call} {next : c.Outcome → Steps}
    (hstore : ∀ b : Backends, (b.perform c).2.store = b.store)
    (hrest : ∀ b : Backends, FollowsUp (next (b.perform c).1)) : FollowsUp (.ask c next) :=
  .ask hrest fun b id hchange => absurd (by rw [hstore b]) hchange

theorem indexing (o : Order) : FollowsUp (indexing o) :=
  ask_of_store_eq (fun _ => rfl) fun _ => succeeded _

theorem discarding (id : String) : FollowsUp (discarding id) :=
  ask_of_store_eq (fun _ => rfl) fun _ => succeeded _

theorem reindexing (o : Order) : FollowsUp (reindexing o) :=
  ask_of_store_eq (fun _ => rfl) fun _ => succeeded _

theorem withdrawing (id : String) : FollowsUp (withdrawing id) := by
  refine ask_of_store_eq (fun _ => rfl) fun b => ?_
  simp only [Backends.perform]
  cases b.index.contains id with
  | true => exact succeeded _
  | false => exact unknown id

theorem creation (o : Order) : FollowsUp (creation o) := by
  refine .ask (fun b => ?_) fun b id hchange => ?_
  · simp only [Backends.perform]
    cases b.store.insert o with
    | error fault => exact setback fault .store "insert"
    | ok store => exact indexing o
  · simp only [Backends.perform] at hchange ⊢
    cases hinsert : b.store.insert o with
    | error fault =>
        rw [hinsert] at hchange
        exact absurd Iff.rfl hchange
    | ok store =>
        rw [hinsert] at hchange
        refine ⟨_, _, rfl, ?_⟩
        by_cases hid : o.id = id
        · simp [Call.indexes?, hid]
        · exact absurd (mem_ids_insert hinsert hid) hchange

theorem deletion (id : String) : FollowsUp (deletion id) := by
  refine .ask (fun b => ?_) fun b other hchange => ?_
  · simp only [Backends.perform]
    cases (b.store.remove id).length != b.store.length with
    | false => exact unknown id
    | true => exact discarding id
  · simp only [Backends.perform] at hchange ⊢
    cases hlength : (b.store.remove id).length != b.store.length with
    | false =>
        rw [remove_eq_self (by simpa using hlength)] at hchange
        exact absurd Iff.rfl hchange
    | true =>
        refine ⟨_, _, rfl, ?_⟩
        by_cases hid : id = other
        · simp [Call.indexes?, hid]
        · exact absurd (mem_ids_remove hid) hchange

theorem reconciliation (id : String) : FollowsUp (reconciliation id) := by
  refine ask_of_store_eq (fun _ => rfl) fun b => ?_
  simp only [Backends.perform]
  cases b.store.findById id with
  | none => exact withdrawing id
  | some d =>
      cases horder : Documents.order d with
      | error flaw =>
          simp only [horder]
          exact failed fun _ _ _ _ heq => by cases heq
      | ok o =>
          simp only [horder]
          exact reindexing o

theorem steps (d : Demand) : FollowsUp d.steps := by
  cases d with
  | create input id now =>
      cases hmake : Order.make input id now with
      | error fault =>
          rw [steps_create_of_error hmake]
          exact failed fun _ _ _ _ heq => by cases heq
      | ok o =>
          rw [steps_create hmake]
          exact creation o
  | delete id =>
      rw [steps_delete]
      exact deletion id
  | reconcile id =>
      rw [steps_reconcile]
      exact reconciliation id

end FollowsUp

/-! ### Interleaved runs -/

/-- Whether an identity is indexed according to its last write, or was so at first. -/
def indexedLast (b₀ : Backends) (id : String) (moments : List Moment) : Bool :=
  ((lastWrite? id moments).bind (·.call.indexes? id)).getD (id ∈ b₀.index.ids)

/-- The backends at the last write of an identity to the index, or at first. -/
def backendsLast (b₀ : Backends) (id : String) (moments : List Moment) : Backends :=
  ((lastWrite? id moments).map (·.backends)).getD b₀

/-- The index is what the last writes have made it. The store has not changed since at an
identity, unless a write of that identity is to come next. -/
structure Underway.InLine (b₀ : Backends) (s : Underway) : Prop where
  followsUp : ∀ w ∈ s.works, FollowsUp w
  index : ∀ id, id ∈ s.backends.index.ids ↔ indexedLast b₀ id s.moments = true
  store : ∀ id, (∃ w ∈ s.works, IndexesNext id w) ∨
    (id ∈ s.backends.store.ids ↔ id ∈ (backendsLast b₀ id s.moments).store.ids)

namespace Underway.InLine

variable {b₀ : Backends} {s : Underway}

theorem start (demands : List Demand) (b₀ : Backends) : (Underway.start demands b₀).InLine b₀ where
  followsUp := by
    intro w hw
    obtain ⟨d, -, rfl⟩ := List.mem_map.mp hw
    exact .steps d
  index := fun id => by simp [Underway.start, indexedLast, lastWrite?]
  store := fun id => .inr Iff.rfl

theorem index_step {c : Call} (h : s.InLine b₀) (id : String) :
    id ∈ (s.backends.perform c).2.index.ids ↔
      indexedLast b₀ id (s.moments ++ [⟨c, s.backends⟩]) = true := by
  rw [Backends.mem_index_perform, indexedLast, lastWrite?_append]
  cases hindexes : c.indexes? id with
  | none => simpa [hindexes, indexedLast] using h.index id
  | some indexed => simp [hindexes]

theorem store_step {i : Nat} {c : Call} {next : c.Outcome → Steps} (h : s.InLine b₀)
    (hwork : s.works[i]? = some (.ask c next)) (id : String) :
    (∃ w ∈ s.works.set i (next (s.backends.perform c).1), IndexesNext id w) ∨
      (id ∈ (s.backends.perform c).2.store.ids ↔
        id ∈ (backendsLast b₀ id (s.moments ++ [⟨c, s.backends⟩])).store.ids) := by
  obtain ⟨hi, hget⟩ := List.getElem?_eq_some_iff.mp hwork
  rw [backendsLast, lastWrite?_append]
  cases hindexes : c.indexes? id with
  | some indexed =>
      -- The write itself makes this moment the last one.
      refine .inr ?_
      rw [Backends.store_perform_of_indexes? (by rw [hindexes]; rfl)]
      simp
  | none =>
      have hfollows : FollowsUp (.ask c next) := h.followsUp _ (List.mem_of_getElem? hwork)
      by_cases hchange : id ∈ (s.backends.perform c).2.store.ids ↔ id ∈ s.backends.store.ids
      · rcases h.store id with hnext | hsame
        · -- Another work is to write the identity, and still is.
          exact .inl (exists_indexesNext_set hwork hindexes hnext _)
        · exact .inr (by simpa [backendsLast] using hchange.trans hsame)
      · cases hfollows with
        | ask hrest hindexes =>
            exact .inl ⟨_, List.mem_set hi _, hindexes s.backends id hchange⟩

theorem step (h : s.InLine b₀) (i : Nat) : (s.step i).InLine b₀ := by
  unfold Underway.step
  split
  · next c next hwork =>
    refine ⟨fun w hw => ?_, h.index_step, h.store_step hwork⟩
    rcases List.mem_or_eq_of_mem_set hw with hmem | rfl
    · exact h.followsUp w hmem
    · have hfollows : FollowsUp (.ask c next) := h.followsUp _ (List.mem_of_getElem? hwork)
      cases hfollows with
      | ask hrest hindexes => exact hrest s.backends
  · exact h

theorem run (h : s.InLine b₀) (schedule : List Nat) : (s.run schedule).InLine b₀ := by
  induction schedule generalizing s with
  | nil => exact h
  | cons i schedule ih => exact ih (h.step i)

end Underway.InLine

/-- Once all demands have their results, none is a halfway one, and the backends hold an identity
both or neither exactly if its last write to the index was borne out by the store. -/
theorem run_holds_alike_iff {demands : List Demand} {b : Backends} {schedule : List Nat}
    {results : List Result} (hstart : ∀ id, id ∈ b.store.ids ↔ id ∈ b.index.ids)
    (hfinished : ((Underway.start demands b).run schedule).Finished results) :
    let s := (Underway.start demands b).run schedule
    (∀ id operation completed pending,
        .error (.halfDone id operation completed pending) ∉ results) ∧
      ∀ id, (id ∈ s.backends.store.ids ↔ id ∈ s.backends.index.ids) ↔
        ∀ m, lastWrite? id s.moments = some m → m.IsBorneOut id := by
  intro s
  have h : s.InLine b := (Underway.InLine.start demands b).run schedule
  have hworks : s.works = results.map .done := hfinished
  constructor
  · intro id operation completed pending hmem
    have hwork := h.followsUp (.done (.error (.halfDone id operation completed pending)))
      (by rw [hworks]; exact List.mem_map.mpr ⟨_, hmem, rfl⟩)
    cases hwork with
    | done hresult => exact hresult id operation completed pending rfl
  · intro id
    -- No write is to come any more, so the store is as it was at the last one.
    have hstore : id ∈ s.backends.store.ids ↔ id ∈ (backendsLast b id s.moments).store.ids := by
      rcases h.store id with ⟨w, hw, c, next, rfl, -⟩ | hsame
      · rw [hworks] at hw
        obtain ⟨result, -, hdone⟩ := List.mem_map.mp hw
        cases hdone
      · exact hsame
    rw [hstore, h.index id, backendsLast, indexedLast]
    cases hlast : lastWrite? id s.moments with
    | none => simp [hstart id]
    | some m =>
        obtain ⟨indexed, hindexes⟩ := indexes?_of_lastWrite? hlast
        simp only [Option.map_some, Option.bind_some, Option.getD_some, hindexes]
        constructor
        · intro hsame _ hm _ hindexed
          obtain rfl := Option.some.inj hm
          obtain rfl := Option.some.inj (hindexes.symm.trans hindexed)
          exact hsame
        · intro hborne
          exact hborne m rfl indexed hindexes

/-! ### An overtaken write -/

/-- A reconciliation that looks an order up before it is deleted, and indexes it after. -/
theorem run_overtaken {o : Order} (ho : o.IsStorable) :
    let s := (Underway.mk [creation o, reconciliation o.id, deletion o.id] {} []).run
      [0, 0, 1, 2, 2, 1]
    s.works = [.done (.ok (.created o)), .done (.ok (.reconciled .reindexed)),
        .done (.ok .deleted)] ∧
      s.backends = ⟨[], { sources := [(o.id, o.toJson)] }⟩ := by
  have hinsert : Backends.perform (.insert o) {} = (.ok (), ⟨[Documents.document o], {}⟩) := by
    simp [Backends.perform, Collection.insert, Documents.ofOrder_eq]
  have hput : ∀ store, Backends.perform (.put o) ⟨store, {}⟩ =
      (.ok (), ⟨store, { sources := [(o.id, o.toJson)] }⟩) := fun store => rfl
  have hfind : ∀ index, Backends.perform (.findById o.id) ⟨[Documents.document o], index⟩ =
      (.ok (some (Documents.document o)), ⟨[Documents.document o], index⟩) := by
    simp [Backends.perform, Collection.findById]
  have hremove : ∀ index, Backends.perform (.remove o.id) ⟨[Documents.document o], index⟩ =
      (.ok true, ⟨[], index⟩) := by
    simp [Backends.perform, Collection.remove]
  have hdiscard : Backends.perform (.discard o.id) ⟨[], { sources := [(o.id, o.toJson)] }⟩ =
      (.ok true, {}) := by
    simp [Backends.perform, Index.contains, Index.discard, Fields.has, Fields.without]
  have hreput : Backends.perform (.put o.truncated) {} =
      (.ok (), ⟨[], { sources := [(o.id, o.toJson)] }⟩) := by
    simp [Backends.perform, Index.put, Order.toJson_truncated ho, Fields.set]
  simp [Underway.run, Underway.step, creation, indexing, reconciliation, reindexing, deletion,
    discarding, hinsert, hput, hfind, hremove, hdiscard, hreput, Documents.order_document ho]

/-- An order for two pens is created, reconciled and deleted. -/
def pensDemands : List Demand :=
  [.create { status := "NEW", city := "Bonn", lineItems := pens } "a" lateEvening,
    .reconcile "a", .delete "a"]

def pensResults : List Result :=
  [.ok (.created (pensOrder "a" "Bonn")), .ok (.reconciled .reindexed), .ok .deleted]

theorem run_pensDemands :
    let s := (Underway.start pensDemands {}).run [0, 0, 1, 2, 2, 1]
    s.Finished pensResults ∧
      s.backends = ⟨[], { sources := [("a", (pensOrder "a" "Bonn").toJson)] }⟩ := by
  have hstart : Underway.start pensDemands {} = Underway.mk [creation (pensOrder "a" "Bonn"),
      reconciliation "a", deletion "a"] {} [] := by
    simp only [pensDemands, Underway.start, List.map_cons, List.map_nil,
      steps_create (make_pens "a" "Bonn"), steps_reconcile, steps_delete]
  rw [hstart]
  exact run_overtaken (Order.isStorable_of_make lateEvening_isCurrent (make_pens "a" "Bonn"))

/-- All demands are met, and yet the index holds an order that the store does not hold. -/
theorem overtaken_reconciliation_differs :
    let s := (Underway.start pensDemands {}).run [0, 0, 1, 2, 2, 1]
    s.Finished pensResults ∧ s.backends.store.ids = [] ∧ s.backends.index.ids = ["a"] := by
  obtain ⟨hfinished, hbackends⟩ := run_pensDemands
  refine ⟨hfinished, ?_, ?_⟩
  all_goals
    rw [hbackends]
    rfl

/-- The write that was overtaken was not borne out by the store. -/
theorem run_holds_alike_iff_pens :
    let s := (Underway.start pensDemands {}).run [0, 0, 1, 2, 2, 1]
    s.Finished pensResults ∧ ¬∀ m, lastWrite? "a" s.moments = some m → m.IsBorneOut "a" := by
  obtain ⟨hfinished, hbackends⟩ := run_pensDemands
  refine ⟨hfinished, fun hborne => ?_⟩
  have hempty : ∀ id, id ∈ Collection.ids [] ↔ id ∈ Index.ids {} := fun _ => Iff.rfl
  have halike := ((run_holds_alike_iff (b := {}) hempty hfinished).2 "a").mpr hborne
  rw [hbackends] at halike
  exact List.not_mem_nil (halike.mpr (List.mem_singleton.mpr rfl))

end Service

end OrderDesk
