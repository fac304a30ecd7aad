import Mathlib.Tactic.Common
import OrderDesk.Proofs.Filtering
import OrderDesk.Proofs.Holdings
import OrderDesk.Proofs.Repetitions

/-! # Agreement of the backends

Orders that are made, stored and indexed one after the other are held by both backends in the
same sequence. A request that is valid, matches nothing loosely, keeps whole orders and sorts by
keys that resolve evenly has one answer then, whichever backend is asked. A field that is sorted
by more than once has to be sorted by in one direction, since the store goes by the last key on it
and the index by the first one.
-/

namespace OrderDesk

open Calendar (Instant)
open Documents (Collection)
open OrderDesk.Filter (Request SortKey)
open Search (Index)

/-- An order that was made from some input at a current time. -/
def Order.IsMade (o : Order) : Prop :=
  ∃ input id now, now.IsCurrent ∧ Order.make input id now = .ok o

theorem Order.IsMade.isStorable {o : Order} (h : o.IsMade) : o.IsStorable := by
  obtain ⟨input, id, now, hnow, hmake⟩ := h
  exact Order.isStorable_of_make hnow hmake

/-! ### Repeated sort keys -/

namespace Filter.Request

variable {r : Request}

/-- No field is sorted by in both directions. -/
def SortsOneWay (r : Request) : Prop :=
  ∀ key ∈ r.sort, ∀ other ∈ r.sort, key.field = other.field → key.direction = other.direction

instance (r : Request) : Decidable r.SortsOneWay :=
  inferInstanceAs (Decidable (∀ key ∈ r.sort, ∀ other ∈ r.sort, _ → _))

/-- The request with each of its sort keys once. -/
def sortingOnce (r : Request) : Request := { r with sort := r.sort.eraseDups }

/-- In one direction, the same field is sorted by under the same key. -/
theorem SortsOneWay.key_eq (h : r.SortsOneWay) {key other : SortKey} (hkey : key ∈ r.sort)
    (hother : other ∈ r.sort) (hfield : key.field = other.field) : key = other := by
  have hdirection := h key hkey other hother hfield
  cases key
  cases other
  rw [SortKey.mk.injEq]
  exact ⟨hfield, hdirection⟩

theorem SortsOneWay.nodup_sortingOnce (h : r.SortsOneWay) :
    (r.sortingOnce.sort.map (·.field)).Nodup := by
  apply List.Nodup.map_on _ (nodup_eraseDups r.sort)
  intro key hkey other hother
  exact h.key_eq (List.mem_eraseDups.mp hkey) (List.mem_eraseDups.mp hother)

theorem check_sortingOnce (h : r.check = .ok ()) : r.sortingOnce.check = .ok () := by
  obtain ⟨hexact, hmatching, hfields, hsort⟩ := check_eq_ok.mp h
  exact check_eq_ok.mpr ⟨hexact, hmatching, hfields,
    fun key hkey => hsort key (List.mem_eraseDups.mp hkey)⟩

/-- A key has no say after an earlier one that is the same, so the answer stays the same. -/
theorem answer_sortingOnce (r : Request) (os : List Order) :
    r.sortingOnce.answer os = r.answer os := by
  have hprecedes : r.sortingOnce.precedes = r.precedes := by
    funext a b
    rw [precedes, precedes, Search.compareUnderAll, Search.compareUnderAll, List.foldr_map,
      List.foldr_map, sortingOnce, foldr_then_eraseDups fun key =>
        Search.compareUnder (Search.bodyKey key) a.toJson b.toJson]
  rw [answer, hprecedes]
  rfl

/-- In one direction, the store is asked for the same under a key that is there already. -/
theorem SortsOneWay.query_sortingOnce (h : r.SortsOneWay) (hvalid : r.check = .ok ()) :
    Documents.Query.ofRequest r.sortingOnce = .ofRequest r := by
  have hsort : Documents.sort? r.sortingOnce.plan = Documents.sort? r.plan := by
    have hempty : r.sort.eraseDups.isEmpty = r.sort.isEmpty := by
      rw [Bool.eq_iff_iff, List.isEmpty_iff, List.isEmpty_iff, List.eq_nil_iff_forall_not_mem,
        List.eq_nil_iff_forall_not_mem]
      exact forall_congr' fun key => not_congr List.mem_eraseDups
    have hentries : Fields.ofEntries (Documents.sortFlags r.sort.eraseDups) =
        Fields.ofEntries (Documents.sortFlags r.sort) := by
      apply Fields.ofEntries_map_eraseDups
      intro key hkey other hother hname
      have hreserved := isReserved_sort hvalid
      rw [h.key_eq hkey hother
        (Documents.storedName_inj (hreserved key hkey) (hreserved other hother) hname)]
    rw [Documents.sort?, Documents.sort?, plan, plan, sortingOnce]
    exact congrArg₂ (fun empty keys => if empty = true then none else some keys) hempty hentries
  rw [Documents.Query.ofRequest, Documents.Query.ofPlan, hsort]
  rfl

end Filter.Request

/-- A query of the store finds the documents of the answer, also if it repeats a sort key. -/
theorem Documents.find_ofRequest_of_sortsOneWay {r : Request} {os : List Order}
    (hvalid : r.check = .ok ()) (hexact : (Fields.names r.exact).Nodup) (hmatch : r.matching = [])
    (hfields : r.fields = []) (hdirections : r.SortsOneWay) (hsort : r.SortsEvenly os) :
    Collection.find (os.map document) (.ofRequest r) = (r.answer os).map document := by
  have hmatching : (Fields.names r.matching).Nodup := hmatch ▸ List.nodup_nil
  rw [← hdirections.query_sortingOnce hvalid, ← r.answer_sortingOnce]
  exact find_ofRequest (Request.check_sortingOnce hvalid)
    ⟨hexact, hmatching, hdirections.nodup_sortingOnce⟩ hmatch hfields
    fun key hkey => hsort key (List.mem_eraseDups.mp hkey)

namespace Service

/-- Among orders with distinct identities, none has the identity of an earlier one. -/
theorem id_not_mem_of_nodup {earlier later : List Order} {o : Order}
    (hids : ((earlier ++ o :: later).map (·.id)).Nodup) : o.id ∉ earlier.map (·.id) := by
  intro hmem
  rw [List.map_append, List.nodup_append] at hids
  exact hids.2.2 o.id hmem o.id List.mem_cons_self rfl

/-- Storing orders with distinct identities one after the other succeeds. -/
theorem foldlM_insert {os : List Order} (hids : (os.map (·.id)).Nodup) :
    os.foldlM Collection.insert [] = .ok (os.map Documents.document) := by
  -- The fold starts from a store that holds some orders already.
  suffices hfold : ∀ stored : List Order, ((stored ++ os).map (·.id)).Nodup →
      os.foldlM Collection.insert (stored.map Documents.document) =
        .ok ((stored ++ os).map Documents.document) from
    hfold [] hids
  clear hids
  induction os with
  | nil => simp [pure, Except.pure]
  | cons o os ih =>
      intro stored hids
      have hnew := id_not_mem_of_nodup hids
      rw [List.append_cons] at hids ⊢
      rw [List.foldlM_cons, Collection.insert_document hnew, ok_bind, ih _ hids]

theorem foldl_put {os : List Order} (hids : (os.map (·.id)).Nodup) (name : String) :
    os.foldl Index.put { name } = ⟨name, Search.sources os⟩ := by
  suffices hfold : ∀ indexed : List Order, ((indexed ++ os).map (·.id)).Nodup →
      os.foldl Index.put ⟨name, Search.sources indexed⟩ =
        ⟨name, Search.sources (indexed ++ os)⟩ from
    hfold [] hids
  clear hids
  induction os with
  | nil => simp
  | cons o os ih =>
      intro indexed hids
      have hnew := id_not_mem_of_nodup hids
      rw [List.append_cons] at hids ⊢
      rw [List.foldl_cons, Index.put, Search.set_sources hnew, ih _ hids]

/-- A list reads everything that the store holds. -/
theorem run_list (b : Backends) : Backends.run list b = (Documents.orders b.store, b) := by
  have hall : b.store.find .all = b.store := List.filter_eq_self.mpr fun d _ => rfl
  have hrun : Backends.run list b = (Documents.orders (b.store.find .all), b) := rfl
  rw [hrun, hall]

theorem run_filter_store {r : Request} (hvalid : r.check = .ok ()) (b : Backends) :
    Backends.run (filter .store r) b = (Documents.orders (b.store.find (.ofRequest r)), b) := by
  rw [filter, hvalid]
  rfl

theorem run_filter_index {r : Request} (hvalid : r.check = .ok ()) (b : Backends) :
    Backends.run (filter .index r) b = (Search.orders (b.index.search (.ofRequest r)), b) := by
  rw [filter, hvalid]
  rfl

/-- A search for whole orders lists the sources of the answer, up to the size of a window. -/
theorem search_ofRequest {os : List Order} {r : Request} (name : String)
    (hlength : os.length ≤ Search.windowSize) (hvalid : r.check = .ok ())
    (hmatch : r.matching = []) (hfields : r.fields = []) :
    Index.search ⟨name, Search.sources os⟩ (.ofRequest r) =
      Index.response (r.answer os).length
        ((Search.sources (r.answer os)).map (Index.hit ⟨name, Search.sources os⟩ none)) := by
  have hfound : Index.found ⟨name, Search.sources os⟩ (.ofRequest r) =
      Search.sources (r.answer os) := Search.found_ofRequest hvalid hmatch
  have hkept : (Search.Body.ofRequest r).kept? = none := by
    refine Search.kept?_ofPlan ?_
    rw [Request.plan, hfields]
    rfl
  have hcount : (Search.sources (r.answer os)).length = (r.answer os).length := List.length_map _
  have hwindow : (Index.found ⟨name, Search.sources os⟩ (.ofRequest r)).length ≤
      Search.windowSize := by
    rw [hfound, hcount]
    exact Nat.le_trans (r.length_answer_le os) hlength
  rw [Search.search_eq_response hwindow, hfound, hkept, hcount]

/-- Both backends give the answer to a request, as a whole and in the same sequence. -/
theorem filter_answers_alike {os : List Order} {r : Request} (hmade : ∀ o ∈ os, o.IsMade)
    (hids : (os.map (·.id)).Nodup) (hlength : os.length ≤ 10000) (hvalid : r.check = .ok ())
    (hexact : (Fields.names r.exact).Nodup) (hmatch : r.matching = []) (hfields : r.fields = [])
    (hdirections : r.SortsOneWay) (hsort : r.SortsEvenly os) :
    ∃ store, os.foldlM Collection.insert [] = .ok store ∧
      ∀ backend, (Backends.run (filter backend r) ⟨store, os.foldl Index.put {}⟩).1 =
        .ok ((r.answer os).map Order.truncated) := by
  have hanswer : ∀ o ∈ r.answer os, o.IsStorable :=
    fun o ho => (hmade o (Request.mem_of_mem_answer ho)).isStorable
  refine ⟨os.map Documents.document, foldlM_insert hids, fun backend => ?_⟩
  cases backend with
  | store =>
      rw [run_filter_store hvalid,
        Documents.find_ofRequest_of_sortsOneWay hvalid hexact hmatch hfields hdirections hsort]
      exact Documents.orders_map_document hanswer
  | index =>
      have hindex : os.foldl Index.put {} = ⟨"orders", Search.sources os⟩ := foldl_put hids _
      rw [run_filter_index hvalid, hindex, search_ofRequest _ hlength hvalid hmatch hfields]
      exact Search.orders_response hanswer

/-- A quarter past ten at night, in November 2023. -/
def lateEvening : Instant := { seconds := 1700000000, nanos := 5000000 }

theorem lateEvening_isCurrent : lateEvening.IsCurrent := ⟨by decide, by decide⟩

/-- Two pens at three each. -/
def pens : List LineItem := [{ name := "pen", quantity := 2, unitPrice := .ofNat 3 }]

/-- The order that is made for two pens, to be sent to a city. -/
def pensOrder (id city : String) : Order where
  id := id
  status := "NEW"
  city := city
  lineItems := pens
  total := .ofNat 6
  createdAt := some lateEvening
  updatedAt := some lateEvening

theorem make_pens (id city : String) :
    Order.make { status := "NEW", city, lineItems := pens } id lateEvening =
      .ok (pensOrder id city) := by
  have hprices : negativePrices pens = [] := by decide +kernel
  have htotal : orderTotal pens = .ok (.ofNat 6) := by decide +kernel
  simp only [Order.make, hprices, htotal]
  rfl

theorem pensOrder_isMade (id city : String) : (pensOrder id city).IsMade :=
  ⟨_, _, _, lateEvening_isCurrent, make_pens id city⟩

/-- Every order has a city to be sorted by. -/
theorem sortsEvenly_by_city {r : Request} (h : ∀ key ∈ r.sort, key.field = "city")
    (os : List Order) : r.SortsEvenly os := by
  intro key hkey
  have hcity : ∀ o : Order, Search.reached o.toJson "city" = [.string o.city] := fun o => rfl
  simp [h key hkey, hcity]

/-- The backends agree on new or paid orders, the last city first, and that said twice. -/
theorem filter_answers_alike_by_city :
    let os := [pensOrder "a" "Aachen", pensOrder "b" "Bonn"]
    let r : Request :=
      { exact := [("status", [.string "NEW", .string "PAID"])]
        sort := [⟨"city", .descending⟩, ⟨"city", .descending⟩] }
    ∃ store, os.foldlM Collection.insert [] = .ok store ∧
      ∀ backend, (Backends.run (filter backend r) ⟨store, os.foldl Index.put {}⟩).1 =
        .ok ((r.answer os).map Order.truncated) := by
  intro os r
  have hmade : ∀ o ∈ os, o.IsMade := by simp [os, pensOrder_isMade]
  exact filter_answers_alike hmade (by decide) (by decide) rfl (by decide) rfl rfl (by decide)
    (sortsEvenly_by_city (by decide) os)

/-- The answer to a request that selects both of two orders. -/
theorem answer_pair {r : Request} {a b : Order} (ha : r.selects a = true)
    (hb : r.selects b = true) :
    r.answer [a, b] = if r.precedes a b then [a, b] else [b, a] := by
  have hselected : [a, b].filter r.selects = [a, b] :=
    List.filter_eq_self.mpr (by simp [ha, hb])
  rw [Request.answer, hselected]
  simp [List.mergeSort, List.MergeSort.Internal.splitInTwo, List.merge]

/-- A field is sorted by in both directions: the store takes it backwards and the index forwards. -/
theorem filter_answers_differ_both_ways :
    let os := [pensOrder "a" "Aachen", pensOrder "b" "Bonn"]
    let r : Request := { sort := [⟨"city", .ascending⟩, ⟨"city", .descending⟩] }
    let b : Backends := ⟨os.map Documents.document, os.foldl Index.put {}⟩
    (∀ o ∈ os, o.IsMade) ∧ (os.map (·.id)).Nodup ∧ r.check = .ok () ∧ r.SortsEvenly os ∧
      os.foldlM Collection.insert [] = .ok b.store ∧ ∃ found shown,
        (Backends.run (filter .store r) b).1 = .ok found ∧
        (Backends.run (filter .index r) b).1 = .ok shown ∧
        found.map (·.id) = ["b", "a"] ∧ shown.map (·.id) = ["a", "b"] := by
  intro os r b
  have hids : (os.map (·.id)).Nodup := by decide
  have hmade : ∀ o ∈ os, o.IsMade := by simp [os, pensOrder_isMade]
  have hvalid : r.check = .ok () := rfl
  have hanswer : ∀ asked : Request, ∀ o ∈ asked.answer os, o.IsStorable :=
    fun asked o ho => (hmade o (Request.mem_of_mem_answer ho)).isStorable
  -- The store is asked for the same as by the second key alone.
  let backwards : Request := { sort := [⟨"city", .descending⟩] }
  have hquery : Documents.Query.ofRequest r = .ofRequest backwards := rfl
  have hfind : Collection.find (os.map Documents.document) (.ofRequest backwards) =
      (backwards.answer os).map Documents.document :=
    Documents.find_ofRequest_of_sortsOneWay rfl List.nodup_nil rfl rfl (by decide)
      (sortsEvenly_by_city (by decide) os)
  have hfound : (backwards.answer os).map (·.id) = ["b", "a"] := by
    have hprecedes : backwards.precedes (pensOrder "a" "Aachen") (pensOrder "b" "Bonn") = false :=
      by decide +kernel
    rw [answer_pair rfl rfl, hprecedes]
    rfl
  have hshown : (r.answer os).map (·.id) = ["a", "b"] := by
    have hprecedes : r.precedes (pensOrder "a" "Aachen") (pensOrder "b" "Bonn") = true := by
      decide +kernel
    rw [answer_pair rfl rfl, hprecedes]
    rfl
  refine ⟨hmade, hids, hvalid, sortsEvenly_by_city (by decide) os, foldlM_insert hids,
    (backwards.answer os).map Order.truncated, (r.answer os).map Order.truncated, ?_, ?_, ?_, ?_⟩
  · rw [run_filter_store hvalid, hquery, hfind]
    exact Documents.orders_map_document (hanswer backwards)
  · have hindex : b.index = ⟨"orders", Search.sources os⟩ := foldl_put hids _
    rw [run_filter_index hvalid, hindex, search_ofRequest _ (by decide) hvalid rfl rfl]
    exact Search.orders_response (hanswer r)
  · rw [List.map_map]
    exact hfound
  · rw [List.map_map]
    exact hshown

end Service

end OrderDesk
