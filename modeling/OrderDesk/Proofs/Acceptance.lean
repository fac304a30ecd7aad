import Mathlib.Data.List.Forall2
import Mathlib.Tactic.Common
import OrderDesk.Proofs.Outcomes
import OrderDesk.Proofs.Projections
import OrderDesk.Proofs.Ranges

/-! # Accepted orders

An order that was read once can be read again from its own JSON form, with one exception. A time may
be given in milliseconds or with an offset, so that its year has more than four digits in universal
time. Such a time is written with a sign in front, which no reader takes. As lists are read as a
whole, one order of this kind makes all of them unreadable; without any, nothing that was written
ever does.
-/

namespace OrderDesk

open Calendar (Instant)
open Json (Draft)

/-! ### Numbers of accepted orders -/

theorem isFinite_of_bind_float {room : Json.Room} {d : Draft} {x : Binary64} (hd : d.InRange)
    (h : Binding.float room d = .ok x) : x.isFinite = true := by
  cases hd with
  | number hn =>
      obtain rfl := Except.ok.inj h
      exact Json.Number.toBinary64_isFinite hn
  | null | boolean b | string s | unreadable | array closed h' | object closed h' | broken =>
      cases h

theorem LineItem.isFinite_of_bind {room : Json.Room} {d : Draft} {item : LineItem} (hd : d.InRange)
    (h : LineItem.bind room d = .ok item) : item.unitPrice.isFinite = true := by
  refine Binding.record_keepsOn (P := fun item => item.unitPrice.isFinite = true)
    (fun part hpart => ?_) hd.children rfl h
  simp only [LineItem.parts, List.mem_cons, List.not_mem_nil, or_false] at hpart
  rcases hpart with rfl | rfl | rfl
  · exact Binding.Part.keepsOn_of fun _ _ _ _ _ _ hitem => hitem
  · exact Binding.Part.keepsOn_of fun _ _ _ _ _ _ hitem => hitem
  · exact Binding.Part.keepsOn_of fun _ _ _ hd hprice _ _ => isFinite_of_bind_float hd hprice

/-! ### Orders that were accepted -/

namespace Order

/-- An order that a value with numbers in range or a text is bound to. -/
def IsAccepted (o : Order) : Prop :=
  (∃ v, (Draft.ofValue v).InRange ∧ Binding.ofValue Order.bind v = .ok o) ∨
    ∃ text, Binding.ofText Order.bind text = .ok o

/-- An order all of whose numbers are finite. -/
structure IsFinite (o : Order) : Prop where
  total : o.total.isFinite = true
  prices : ∀ item ∈ o.lineItems, item.unitPrice.isFinite = true

/-- The times of an order, if it has any, are of years with at most four digits. -/
def YearsFit (o : Order) : Prop := ∀ entry ∈ o.times, ∀ t ∈ entry.2, t.date.year ≤ 9999

theorem isFinite_of_bind {room : Json.Room} {d : Draft} {o : Order} (hd : d.InRange)
    (h : Order.bind room d = .ok o) : o.IsFinite := by
  refine Binding.record_keepsOn (P := Order.IsFinite) (fun part hpart => ?_) hd.children
    ⟨rfl, List.forall_mem_nil _⟩ h
  simp only [Order.parts, List.mem_cons, List.not_mem_nil, or_false] at hpart
  rcases hpart with rfl | rfl | rfl | rfl | rfl | rfl | rfl | rfl | rfl
  case inr.inr.inr.inr.inr.inl =>
    apply Binding.Part.keepsOn_of
    intro room d items hd hitems o ho
    have hprices := Binding.of_mem_list (fun _ _ _ => LineItem.isFinite_of_bind) hd.children hitems
    exact ⟨ho.total, hprices⟩
  case inr.inr.inr.inr.inr.inr.inl =>
    apply Binding.Part.keepsOn_of
    intro room d total hd htotal o ho
    exact ⟨isFinite_of_bind_float hd htotal, ho.prices⟩
  all_goals exact Binding.Part.keepsOn_of fun _ _ _ _ _ _ ho => ⟨ho.total, ho.prices⟩

theorem IsAccepted.isFinite {o : Order} (h : o.IsAccepted) : o.IsFinite := by
  rcases h with ⟨v, hv, hbind⟩ | ⟨text, hbind⟩
  · exact isFinite_of_bind hv hbind
  · obtain ⟨bound, hbound, hclosing⟩ := bind_eq_ok.mp hbind
    obtain rfl := Binding.ok_of_closing hclosing
    exact isFinite_of_bind (Json.inRange_draft text) hbound

theorem yearsFit_iff {o : Order} :
    o.YearsFit ↔ (∀ t ∈ o.createdAt, t.date.year ≤ 9999) ∧
      ∀ t ∈ o.updatedAt, t.date.year ≤ 9999 := by
  simp [YearsFit, times]

theorem IsFinite.isReadable {o : Order} (h : o.IsFinite) (hyears : o.YearsFit) : o.IsReadable where
  total_isFinite := h.total
  prices_isFinite := h.prices
  createdAt_year_le := (yearsFit_iff.mp hyears).1
  updatedAt_year_le := (yearsFit_iff.mp hyears).2

/-- A time among members that bind is of a year with at most four digits. -/
theorem year_le_of_bind_members {members : List (String × Json)} {name : String}
    {time : Option Instant} {back : Order} (hname : name = "createdAt" ∨ name = "updatedAt")
    (hmember : (name, .string (timeText time)) ∈ members)
    (h : Binding.ofValue Order.bind (.object members) = .ok back) :
    ∀ t ∈ time, t.date.year ≤ 9999 := by
  simp only [Binding.ofValue, Order.bind, Draft.ofValue, Binding.record, Binding.enter,
    Json.Room.enter?, ok_bind] at h
  obtain ⟨bound, hbound, -⟩ := bind_eq_ok.mp h
  have hdraft : (some name, Draft.string (timeText time)) ∈ Draft.ofMembers members := by
    rw [Draft.ofMembers_eq_map]
    exact List.mem_map.mpr ⟨_, hmember, rfl⟩
  have hpart : ∃ put, Order.parts.find? (·.answersTo name) =
      some (.of name bindTime put) := by
    rcases hname with rfl | rfl <;> exact ⟨_, rfl⟩
  obtain ⟨put, hfind⟩ := hpart
  obtain ⟨before, after, hbind⟩ := Binding.bind_of_mem_bindMembers hfind hdraft hbound
  rintro t rfl
  by_contra hyear
  simp only [Binding.Part.of, bindTime_timeText_of_year_gt (Int.not_le.mp hyear)] at hbind
  cases hbind

theorem yearsFit_of_bind_members {o back : Order} {members : List (String × Json)}
    (hmembers : o.otherMembers ⊆ members)
    (h : Binding.ofValue Order.bind (.object members) = .ok back) : o.YearsFit := by
  apply yearsFit_iff.mpr
  constructor
  · exact year_le_of_bind_members (.inl rfl) (hmembers (by simp [otherMembers])) h
  · exact year_le_of_bind_members (.inr rfl) (hmembers (by simp [otherMembers])) h

/-- The JSON form of an order with finite numbers reads back if its times are of years with at most
four digits, and only then. -/
theorem exists_bind_toJson_iff {o : Order} (h : o.IsFinite) :
    (∃ back, Binding.ofValue Order.bind o.toJson = .ok back) ↔ o.YearsFit := by
  constructor
  · rintro ⟨back, hback⟩
    rw [toJson_eq] at hback
    exact yearsFit_of_bind_members (List.subset_cons_self _ _) hback
  · intro hyears
    exact ⟨o.told, bind_toJson_told (h.isReadable hyears)⟩

theorem IsReadable.told {o : Order} (h : o.IsReadable) : o.told.IsReadable := by
  have htime : ∀ {time : Option Instant}, (∀ t ∈ time, t.date.year ≤ 9999) →
      ∀ t ∈ toldTime time, t.date.year ≤ 9999 := by
    intro time hyears t ht
    obtain ⟨hmem, -⟩ := Option.mem_filter_iff.mp ht
    obtain ⟨s, hs, rfl⟩ := Option.map_eq_some_iff.mp hmem
    exact hyears s hs
  exact ⟨h.total_isFinite, h.prices_isFinite, htime h.createdAt_year_le, htime h.updatedAt_year_le⟩

end Order

/-! ### Documents and hits that are read -/

namespace Documents

/-- Documents are read one by one, in sequence. -/
theorem orders_eq_ok_iff {ds : List Document} {os : List Order} :
    orders ds = .ok os ↔ List.Forall₂ (fun d o => order d = .ok o) ds os := by
  simp only [orders, mapM_eq_ok_iff, mapError_eq_ok]

/-- Documents are read as a whole or not at all. -/
theorem exists_orders_iff {ds : List Document} :
    (∃ os, orders ds = .ok os) ↔ ∀ d ∈ ds, ∃ o, order d = .ok o := by
  simp only [orders_eq_ok_iff, exists_forall₂_iff]

/-- What fails is the decoding of one of the documents. -/
theorem exists_message_of_orders {ds : List Document} {failure : Failure}
    (h : orders ds = .error failure) : ∃ message, failure = .undecodable .store message := by
  obtain ⟨d, -, hfailure⟩ := exists_mem_of_mapM_eq_error h
  obtain ⟨flaw, -, rfl⟩ := mapError_eq_error.mp hfailure
  exact ⟨flaw.message, rfl⟩

theorem yearsFit_of_order_document {o back : Order} (h : order (document o) = .ok back) :
    o.YearsFit := by
  rw [order, toJson_document] at h
  exact Order.yearsFit_of_bind_members (List.subset_append_left _ _) h

end Documents

namespace Service

open Documents (Collection document)
open OrderDesk.Filter (Request)

/-! ### Backends that hold readable orders -/

/-- Each document and each source that the backends hold is of an order that reads back. -/
structure Backends.HoldReadable (b : Backends) : Prop where
  documents : ∀ d ∈ b.store, ∃ o : Order, o.IsReadable ∧ d = document o
  sources : ∀ entry ∈ b.index.sources, ∃ o : Order, o.IsReadable ∧ entry = (o.id, o.toJson)

namespace Backends.HoldReadable

variable {b : Backends} {o : Order}

theorem empty (name : String) : HoldReadable { index := { name } } :=
  ⟨List.forall_mem_nil _, List.forall_mem_nil _⟩

theorem insert (h : b.HoldReadable) (ho : o.IsReadable) :
    (b.perform (.insert o)).2.HoldReadable := by
  cases hinsert : b.store.insert o with
  | error setback =>
      rw [Backends.perform, hinsert]
      exact h
  | ok store =>
      obtain ⟨-, rfl⟩ := Collection.eq_append_of_insert hinsert
      rw [Backends.perform, hinsert]
      refine ⟨fun d hd => ?_, h.sources⟩
      rcases List.mem_append.mp hd with hold | hnew
      · exact h.documents d hold
      · exact ⟨o, ho, List.mem_singleton.mp hnew⟩

theorem put (h : b.HoldReadable) (ho : o.IsReadable) : (b.perform (.put o)).2.HoldReadable := by
  refine ⟨h.documents, fun entry hentry => ?_⟩
  rcases List.mem_cons.mp (Fields.set_subset _ _ _ hentry) with hnew | hold
  · exact ⟨o, ho, hnew⟩
  · exact h.sources entry hold

theorem remove (h : b.HoldReadable) (id : String) : (b.perform (.remove id)).2.HoldReadable :=
  ⟨fun d hd => h.documents d (List.mem_filter.mp hd).1, h.sources⟩

theorem discard (h : b.HoldReadable) (id : String) : (b.perform (.discard id)).2.HoldReadable :=
  ⟨h.documents, fun entry hentry => h.sources entry (List.mem_filter.mp hentry).1⟩

/-- An order that is looked up reads back once more. -/
theorem isReadable_of_findById {id : String} {d : Document} {o : Order} (h : b.HoldReadable)
    (hfind : b.store.findById id = some d) (horder : Documents.order d = .ok o) :
    o.IsReadable := by
  obtain ⟨held, hheld, rfl⟩ := h.documents d (List.mem_of_find?_eq_some hfind)
  rw [Documents.order_document_told hheld] at horder
  obtain rfl := Except.ok.inj horder
  exact hheld.told

theorem creation (h : b.HoldReadable) (ho : o.IsReadable) :
    ((creation o).run Backends.perform b).2.HoldReadable := by
  have hinserted := h.insert ho
  rw [Service.creation, Dialogue.run_ask]
  cases (b.perform (.insert o)).1 with
  | error setback => exact hinserted
  | ok u => exact hinserted.put ho

theorem deletion (h : b.HoldReadable) (id : String) :
    ((deletion id).run Backends.perform b).2.HoldReadable := by
  have hremoved := h.remove id
  rw [Service.deletion, Dialogue.run_ask]
  cases (b.perform (.remove id)).1 with
  | error setback => exact hremoved
  | ok known =>
      cases known with
      | false => exact hremoved
      | true => exact hremoved.discard id

theorem reconciliation (h : b.HoldReadable) (id : String) :
    ((reconciliation id).run Backends.perform b).2.HoldReadable := by
  rw [Service.reconciliation, Dialogue.run_ask, Backends.perform]
  cases hfind : b.store.findById id with
  | none =>
      have hdiscarded := h.discard id
      rw [withdrawing, Dialogue.run_ask]
      cases (b.perform (.discard id)).1 with
      | error setback => exact hdiscarded
      | ok known => cases known <;> exact hdiscarded
  | some d =>
      cases horder : Documents.order d with
      | error flaw =>
          simp only [horder]
          exact h
      | ok o =>
          -- What is indexed here was not given but read, so it is readable by the invariant.
          simp only [horder]
          exact h.put (h.isReadable_of_findById hfind horder)

theorem steps {d : Demand} (h : b.HoldReadable) (hd : d.IsCurrent) :
    (d.steps.run Backends.perform b).2.HoldReadable := by
  cases d with
  | create input id now =>
      cases hmake : Order.make input id now with
      | error fault =>
          rw [steps_create_of_error hmake]
          exact h
      | ok o =>
          rw [steps_create hmake]
          exact h.creation (Order.isStorable_of_make hd hmake).isReadable
  | delete id =>
      rw [steps_delete]
      exact h.deletion id
  | reconcile id =>
      rw [steps_reconcile]
      exact h.reconciliation id

/-! ### What is read from them -/

theorem exists_run_list (h : b.HoldReadable) : ∃ os, (run list b).1 = .ok os := by
  rw [run_list]
  apply Documents.exists_orders_iff.mpr
  intro d hd
  obtain ⟨o, ho, rfl⟩ := h.documents d hd
  exact ⟨o.told, Documents.order_document_told ho⟩

theorem exists_run_filter_store {r : Request} (h : b.HoldReadable) (hvalid : r.check = .ok ()) :
    ∃ os, (run (filter .store r) b).1 = .ok os := by
  rw [run_filter_store hvalid, Documents.find_eq_map_kept]
  apply Documents.exists_orders_iff.mpr
  intro d hd
  obtain ⟨whole, hwhole, rfl⟩ := List.mem_map.mp hd
  obtain ⟨o, ho, rfl⟩ := h.documents whole (Documents.find_subset b.store rfl hwhole)
  exact ⟨_, Documents.order_kept ho (Filter.Request.isReserved_fields hvalid)⟩

theorem exists_run_filter_index {r : Request} (h : b.HoldReadable) (hvalid : r.check = .ok ())
    (hlength : (b.index.found (.ofRequest r)).length ≤ 10000) :
    ∃ os, (run (filter .index r) b).1 = .ok os := by
  have hshown : ∀ hit ∈ (b.index.found (.ofRequest r)).map
      (b.index.hit (Search.Body.ofRequest r).kept?), ∃ o, Search.Shows hit o := by
    intro hit hhit
    obtain ⟨entry, hentry, rfl⟩ := List.mem_map.mp hhit
    obtain ⟨o, ho, rfl⟩ := h.sources entry (Search.found_subset _ _ hentry)
    exact ⟨_, Search.shows_hit_keep ho r⟩
  obtain ⟨os, hos⟩ := exists_forall₂_iff.mpr hshown
  rw [run_filter_index hvalid, Search.search_eq_response hlength]
  exact ⟨os, Search.orders_response_eq_ok.mpr ⟨Nat.le_of_eq (List.length_map _).symm, hos⟩⟩

end Backends.HoldReadable

/-- A store that holds an order of a later year cannot be listed. -/
theorem run_list_of_not_yearsFit {b : Backends} {o : Order} (hheld : document o ∈ b.store)
    (hyears : ¬o.YearsFit) :
    ∃ message, (Backends.run list b).1 = .error (.undecodable .store message) := by
  rw [run_list]
  cases horders : Documents.orders b.store with
  | ok os =>
      obtain ⟨back, hback⟩ := Documents.exists_orders_iff.mp ⟨os, horders⟩ _ hheld
      exact absurd (Documents.yearsFit_of_order_document hback) hyears
  | error failure =>
      obtain ⟨message, rfl⟩ := Documents.exists_message_of_orders horders
      exact ⟨message, rfl⟩

/-! ### Whole runs -/

/-- The order that a call writes. -/
def Call.written? : Call → Option Order
  | insert o | put o => some o
  | find _ | findById _ | remove _ | search _ | discard _ => none

/-- What reaches the backends: a call by itself, or the work on a demand. -/
inductive Deed where
  | call (c : Call)
  | demand (d : Demand)

namespace Deed

/-- The order that a call by itself writes. -/
def written? : Deed → Option Order
  | call c => c.written?
  | demand _ => none

def perform : Deed → Backends → Backends
  | call c, b => (b.perform c).2
  | demand d, b => (d.steps.run Backends.perform b).2

/-- A call that writes no other order than one with a property, or a demand at a time that can be
written and read back. -/
def WritesOnly (P : Order → Prop) : Deed → Prop
  | call c => ∀ o ∈ c.written?, P o
  | demand d => d.IsCurrent

theorem holdReadable_perform {deed : Deed} {b : Backends} (hdeed : deed.WritesOnly Order.IsReadable)
    (h : b.HoldReadable) : (deed.perform b).HoldReadable := by
  cases deed with
  | call c =>
      cases c with
      | insert o => exact h.insert (hdeed o rfl)
      | put o => exact h.put (hdeed o rfl)
      | remove id => exact h.remove id
      | discard id => exact h.discard id
      | find query | findById id | search body => exact h
  | demand d => exact h.steps hdeed

end Deed

/-- The backends after some deeds, with an index of some name. -/
def Backends.after (name : String) (deeds : List Deed) : Backends :=
  deeds.foldl (fun b deed => deed.perform b) { index := { name } }

theorem holdReadable_after {deeds : List Deed}
    (hdeeds : ∀ deed ∈ deeds, deed.WritesOnly Order.IsReadable) (name : String) :
    (Backends.after name deeds).HoldReadable := by
  suffices hfold : ∀ b : Backends, b.HoldReadable →
      (deeds.foldl (fun b deed => deed.perform b) b).HoldReadable from hfold _ (.empty name)
  induction deeds with
  | nil => exact fun b h => h
  | cons deed deeds ih =>
      obtain ⟨hdeed, hrest⟩ := List.forall_mem_cons.mp hdeeds
      exact fun b h => ih hrest _ (deed.holdReadable_perform hdeed h)

/-- Each accepted order that is written is read back from its JSON form exactly if its times are of
years with at most four digits. If all of them are, every list and every valid filter gives orders,
unless a search finds more than it may return; and if the store holds one that is not, no list
does. -/
theorem accepted_orders_read_back {deeds : List Deed}
    (haccepted : ∀ deed ∈ deeds, deed.WritesOnly Order.IsAccepted) (name : String) :
    let b := Backends.after name deeds
    (∀ o ∈ deeds.filterMap Deed.written?,
      ((∃ back, Binding.ofValue Order.bind o.toJson = .ok back) ↔ o.YearsFit)) ∧
    ((∀ o ∈ deeds.filterMap Deed.written?, o.YearsFit) →
      (∃ os, (Backends.run list b).1 = .ok os) ∧
      ∀ r : Request, r.check = .ok () →
        (∃ os, (Backends.run (filter .store r) b).1 = .ok os) ∧
        ((b.index.found (.ofRequest r)).length ≤ 10000 →
          ∃ os, (Backends.run (filter .index r) b).1 = .ok os)) ∧
    ∀ o, document o ∈ b.store → ¬o.YearsFit →
      ∃ message, (Backends.run list b).1 = .error (.undecodable .store message) := by
  intro b
  have hfinite : ∀ deed ∈ deeds, ∀ o ∈ deed.written?, o.IsFinite := by
    intro deed hdeed o ho
    cases deed with
    | call c => exact (haccepted _ hdeed o ho).isFinite
    | demand d => cases ho
  refine ⟨fun o ho => ?_, fun hyears => ?_, fun o => run_list_of_not_yearsFit⟩
  · obtain ⟨deed, hdeed, hwritten⟩ := List.mem_filterMap.mp ho
    exact Order.exists_bind_toJson_iff (hfinite deed hdeed o hwritten)
  · have hreadable : b.HoldReadable := by
      refine holdReadable_after (fun deed hdeed => ?_) name
      cases deed with
      | call c =>
          intro o ho
          have hfits := hyears o (List.mem_filterMap.mpr ⟨_, hdeed, ho⟩)
          exact (hfinite _ hdeed o ho).isReadable hfits
      | demand d => exact haccepted _ hdeed
    refine ⟨hreadable.exists_run_list, fun r hvalid => ⟨?_, ?_⟩⟩
    · exact hreadable.exists_run_filter_store hvalid
    · exact hreadable.exists_run_filter_index hvalid

/-- An order whose offset moves it into the last year that fits is listed and filtered, also once it
is reconciled. -/
theorem accepted_orders_read_back_new_year :
    let v : Json := .object [("id", .string "a"),
      ("createdAt", .object [("$date", .string "9998-12-31T23:30:00-01:00")])]
    let o : Order := { id := "a", createdAt := some { seconds := 253370766600, nanos := 0 } }
    let b := Backends.after "orders" [.call (.insert o), .demand (.reconcile "a")]
    let r : Request := { matching := [("id", .string "a")] }
    Binding.ofValue Order.bind v = .ok o ∧
      (∃ back, Binding.ofValue Order.bind o.toJson = .ok back) ∧
      (∃ os, (Backends.run list b).1 = .ok os) ∧
      (∃ os, (Backends.run (filter .store r) b).1 = .ok os) ∧
      ∃ os, (Backends.run (filter .index r) b).1 = .ok os := by
  intro v o b r
  have hbind : Binding.ofValue Order.bind v = .ok o := rfl
  have haccepted : o.IsAccepted := by
    refine .inl ⟨v, ?_, hbind⟩
    refine .object _ (List.forall_mem_cons.mpr ⟨.string _, List.forall_mem_singleton.mpr ?_⟩)
    exact .object _ (List.forall_mem_singleton.mpr (.string _))
  have hyears : o.YearsFit := by
    rw [Order.yearsFit_iff]
    decide +kernel
  have hdeeds : ∀ deed ∈ [Deed.call (.insert o), .demand (.reconcile "a")],
      deed.WritesOnly Order.IsAccepted := by
    refine List.forall_mem_cons.mpr ⟨?_, List.forall_mem_singleton.mpr trivial⟩
    rintro p ⟨⟩
    exact haccepted
  have hlength : (b.index.found (.ofRequest r)).length ≤ 10000 := by
    apply Nat.le_trans (Search.length_found_le _ _)
    decide +kernel
  obtain ⟨hback, hreads, -⟩ := accepted_orders_read_back hdeeds "orders"
  obtain ⟨hlist, hfilter⟩ := hreads (List.forall_mem_singleton.mpr hyears)
  obtain ⟨hstore, hindex⟩ := hfilter r rfl
  exact ⟨hbind, (hback o List.mem_cons_self).mpr hyears, hlist, hstore, hindex hlength⟩

/-- An order of the year ten thousand, given in milliseconds, is stored and never read again. -/
theorem accepted_order_unreadable :
    let v : Json := .object [("id", .string "x"),
      ("createdAt", .object [("$date", .object [("$numberLong", .string "253402300800000")])])]
    let o : Order := { id := "x", createdAt := some { seconds := 253402300800, nanos := 0 } }
    let b := (Backends.perform (.insert o) {}).2
    Binding.ofValue Order.bind v = .ok o ∧
      (∀ back, Binding.ofValue Order.bind o.toJson ≠ .ok back) ∧
      (Backends.perform (.insert o) {}).1 = .ok () ∧
      ∃ message, (Backends.run list b).1 = .error (.undecodable .store message) := by
  intro v o b
  have hyears : ¬o.YearsFit := by
    rw [Order.yearsFit_iff]
    decide +kernel
  have hinsert : Backends.perform (.insert o) {} = (.ok (), { store := [document o] }) := rfl
  refine ⟨rfl, fun back hback => ?_, rfl, ?_⟩
  · exact hyears (Order.yearsFit_of_bind_members (List.subset_cons_self _ _) hback)
  · exact run_list_of_not_yearsFit (o := o) (by simp [b, hinsert]) hyears

end Service

end OrderDesk
