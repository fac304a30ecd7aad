import Mathlib.Data.List.Induction
import Mathlib.Tactic.Common
import OrderDesk.Proofs.Agreement
import OrderDesk.Proofs.Reaching

/-! # What each backend selects

Whatever clauses a valid request has, the store selects the orders that fit it by equality, and the
index those that fit it by resemblance. Both keep the orders that they select in the sequence in
which they hold them.
-/

namespace OrderDesk

open Documents (Collection)
open OrderDesk.Filter (Request)
open Search (Index)

/-- A request fits a source if every clause is met, however a backend decides on matches. -/
theorem Filter.Request.fits_iff {Meets : Json → Json → Prop} {meets : Json → Json → Bool}
    (hmeets : ∀ v w, Filter.isLiteral w = true → (meets v w = true ↔ Meets v w)) {r : Request}
    (hvalid : r.check = .ok ()) (source : Json) :
    (r.exact.all (Search.meetsExact source) &&
      r.matching.all (Search.meetsMatch meets source)) = true ↔ r.Fits Meets source := by
  have hexact : r.exact.all (Search.meetsExact source) = true ↔ ∀ clause ∈ r.exact,
      ∃ v, source.Reaches (FieldPath.segments clause.1) v ∧ ∃ w ∈ clause.2, v.Equals w := by
    rw [List.all_eq_true]
    apply forall₂_congr
    intro clause hclause
    simp only [Search.meetsExact, List.any_eq_true, Search.mem_reached_iff]
    refine exists_congr fun v => and_congr_right fun _ => exists_congr fun w => ?_
    exact and_congr_right fun hw =>
      Search.equal_iff (Request.isLiteral_exact hvalid clause hclause w hw)
  have hmatch : r.matching.all (Search.meetsMatch meets source) = true ↔ ∀ clause ∈ r.matching,
      ∃ v, source.Reaches (FieldPath.segments clause.1) v ∧ Meets v clause.2 := by
    rw [List.all_eq_true]
    apply forall₂_congr
    intro clause hclause
    simp only [Search.meetsMatch, List.any_eq_true, Search.mem_reached_iff]
    refine exists_congr fun v => and_congr_right fun _ => ?_
    exact hmeets v clause.2 (Request.isLiteral_matching hvalid clause hclause)
  rw [Bool.and_eq_true, hexact, hmatch]
  exact ⟨fun h => ⟨h.1, h.2⟩, fun h => ⟨h.exact, h.matching⟩⟩

/-- The caller's name of the identity reaches the identity of an order and nothing else. -/
theorem Order.reaches_id_iff {o : Order} {v : Json} :
    o.toJson.Reaches (FieldPath.segments Documents.callerId) v ↔ v = .string o.id := by
  rw [← Search.mem_reached_iff]
  exact List.mem_singleton

/-! ### Stores -/

namespace Documents

/-- A store that took orders one after the other holds their documents. -/
theorem eq_map_of_foldlM_insert {os : List Order} {store : Collection}
    (h : os.foldlM Collection.insert [] = .ok store) : store = os.map document := by
  suffices hfold : ∀ stored : List Order,
      os.foldlM Collection.insert (stored.map document) = .ok store →
        store = (stored ++ os).map document from
    hfold [] h
  clear h
  induction os with
  | nil =>
      intro stored h
      rw [List.append_nil]
      exact (Except.ok.inj h).symm
  | cons o os ih =>
      intro stored h
      rw [List.foldlM_cons] at h
      by_cases hknown : o.id ∈ stored.map (·.id)
      · rw [Collection.insert_document_of_mem hknown] at h
        cases h
      · rw [Collection.insert_document hknown, ok_bind] at h
        rw [List.append_cons]
        exact ih (stored ++ [o]) h

open Classical in
/-- A query of the store finds the documents of the orders that fit the request, in the sequence in
which they were stored. -/
theorem find_selects_fitting {os : List Order} {store : Collection} {r : Request}
    (hstored : os.foldlM Collection.insert [] = .ok store) (hvalid : r.check = .ok ())
    (hr : r.WellFormed) (hfields : r.fields = []) (hsort : r.sort = []) :
    (os.filter fun o => r.Fits Json.Equals o.toJson).mapM ofOrder =
        .ok (store.find (.ofRequest r)) ∧
      ∀ (o : Order) (v : Json),
        o.toJson.Reaches (FieldPath.segments "id") v ↔ v = .string o.id := by
  refine ⟨?_, fun o v => Order.reaches_id_iff⟩
  have hselects : ∀ o, selects (document o) (predicate r.plan) =
      decide (r.Fits Json.Equals o.toJson) := by
    intro o
    rw [selects_predicate hvalid hr, Request.selects, Bool.eq_iff_iff, decide_eq_true_eq]
    exact Request.fits_iff (fun v w hw => Search.equal_iff hw) hvalid o.toJson
  have hfind : store.find (.ofRequest r) =
      (os.filter fun o => r.Fits Json.Equals o.toJson).map document := by
    have hkept : projection? r.plan.projection = none := by
      rw [Request.plan, hfields]
      rfl
    have hkeys : sort? r.plan = none := by
      rw [sort?_plan hvalid hr, hsort]
      rfl
    simp only [Collection.find, Query.ofRequest, Query.ofPlan, hkept, hkeys,
      eq_map_of_foldlM_insert hstored, List.filter_map]
    congr 1
    exact List.filter_congr fun o _ => hselects o
  rw [hfind]
  exact mapM_eq_ok_map fun o _ => ofOrder_eq o

open Classical in
/-- Of two orders for two pens, the one that goes to Bonn is found. -/
theorem find_selects_fitting_city :
    let os := [Service.pensOrder "a" "Aachen", Service.pensOrder "b" "Bonn"]
    let store : Collection := os.map document
    let r : Request :=
      { exact := [("lineItems.quantity", [.ofNat 2, .string "2"]), ("id", [.string "b"])]
        matching := [("city", .string "Bonn"), ("id", .string "b")] }
    os.foldlM Collection.insert [] = .ok store ∧ r.check = .ok () ∧ r.WellFormed ∧
      r.fields = [] ∧ r.sort = [] ∧
      (os.filter fun o => r.Fits Json.Equals o.toJson).mapM ofOrder =
        .ok (store.find (.ofRequest r)) ∧
      Collection.ids (store.find (.ofRequest r)) = ["b"] := by
  intro os store r
  have hstored : os.foldlM Collection.insert [] = .ok store :=
    Service.foldlM_insert (by decide)
  have hr : r.WellFormed := ⟨by decide, by decide, by decide⟩
  have hids : Collection.ids (store.find (.ofRequest r)) = ["b"] := by decide +kernel
  exact ⟨hstored, rfl, hr, rfl, rfl, (find_selects_fitting hstored rfl hr rfl rfl).1, hids⟩

end Documents

/-! ### Indexes -/

namespace Search

/-- Orders with a further one, which takes the place of the one with its identity, if any. -/
def placed : List Order → Order → List Order
  | [], o => [o]
  | p :: os, o => if p.id = o.id then o :: os else p :: placed os o

theorem sources_placed (os : List Order) (o : Order) :
    sources (placed os o) = Fields.set (sources os) o.id o.toJson := by
  induction os with
  | nil => rfl
  | cons p os ih =>
      unfold placed
      split
      · next hid =>
        rw [sources, sources, List.map_cons, List.map_cons, Fields.set, if_pos hid]
      · next hid =>
        rw [sources, sources, List.map_cons, List.map_cons, Fields.set, if_neg hid, ← sources,
          ← sources, ih]

theorem nodup_placed {os : List Order} (h : (os.map (·.id)).Nodup) (o : Order) :
    ((placed os o).map (·.id)).Nodup := by
  rw [← names_sources] at h ⊢
  rw [sources_placed]
  exact Fields.nodup_names_set h o.id o.toJson

theorem mem_placed_iff {os : List Order} (h : (os.map (·.id)).Nodup) {o p : Order} :
    p ∈ placed os o ↔ p = o ∨ p ∈ os ∧ p.id ≠ o.id := by
  induction os with
  | nil => simp [placed]
  | cons q os ih =>
      obtain ⟨hq, hos⟩ := List.nodup_cons.mp h
      have hother : ∀ p ∈ os, p.id ≠ q.id := by
        intro p hp heq
        exact hq (List.mem_map.mpr ⟨p, hp, heq⟩)
      unfold placed
      split
      · next hid =>
        rw [List.mem_cons, List.mem_cons]
        refine or_congr_right ⟨fun hp => ⟨.inr hp, hid ▸ hother p hp⟩, ?_⟩
        rintro ⟨rfl | hp, hne⟩
        · exact absurd hid hne
        · exact hp
      · next hid =>
        rw [List.mem_cons, List.mem_cons, ih hos]
        constructor
        · rintro (rfl | rfl | ⟨hp, hne⟩)
          · exact .inr ⟨.inl rfl, hid⟩
          · exact .inl rfl
          · exact .inr ⟨.inr hp, hne⟩
        · rintro (rfl | ⟨rfl | hp, hne⟩)
          · exact .inr (.inl rfl)
          · exact .inl rfl
          · exact .inr (.inr ⟨hp, hne⟩)

/-- An index holds the orders that were put into it and whose identity was not put again. -/
theorem exists_sources_foldl_put (puts : List Order) (name : String) :
    ∃ held : List Order, puts.foldl Index.put { name } = ⟨name, sources held⟩ ∧
      (held.map (·.id)).Nodup ∧
      ∀ o, o ∈ held ↔ ∃ earlier later, puts = earlier ++ o :: later ∧ o.id ∉ later.map (·.id) := by
  induction puts using List.reverseRecOn with
  | nil => exact ⟨[], rfl, List.nodup_nil, by simp⟩
  | append_singleton puts last ih =>
      obtain ⟨held, hput, hnodup, hheld⟩ := ih
      refine ⟨placed held last, ?_, nodup_placed hnodup last, fun o => ?_⟩
      · rw [List.foldl_append, hput, sources_placed]
        rfl
      · rw [mem_placed_iff hnodup, hheld]
        constructor
        · rintro (rfl | ⟨⟨earlier, later, rfl, hlater⟩, hne⟩)
          · exact ⟨puts, [], rfl, by simp⟩
          · refine ⟨earlier, later ++ [last], by simp, ?_⟩
            rw [List.map_append, List.mem_append, not_or]
            exact ⟨hlater, by simpa using hne⟩
        · rintro ⟨earlier, later, hputs, hlater⟩
          cases later using List.reverseRecOn with
          | nil =>
              exact .inl (List.singleton_inj.mp (List.append_inj' hputs rfl).2).symm
          | append_singleton later final =>
              rw [← List.cons_append, ← List.append_assoc] at hputs
              obtain ⟨rfl, hfinal⟩ := List.append_inj' hputs rfl
              obtain rfl : last = final := List.singleton_inj.mp hfinal
              rw [List.map_append, List.mem_append, not_or] at hlater
              exact .inr ⟨⟨earlier, later, rfl, hlater.1⟩, by simpa using hlater.2⟩

open Classical in
/-- A search selects the orders that fit the request, in the sequence in which they are indexed.
It counts all of them, and lists them up to the size of a window. -/
theorem search_selects_fitting {puts : List Order} {name : String} {r : Request}
    (hvalid : r.check = .ok ()) (hsort : r.sort = []) :
    let i := puts.foldl Index.put { name }
    ∃ held : List Order, i.sources = sources held ∧ (held.map (·.id)).Nodup ∧
      (∀ o, o ∈ held ↔
        ∃ earlier later, puts = earlier ++ o :: later ∧ o.id ∉ later.map (·.id)) ∧
      let hits := held.filter fun o => r.Fits Json.Resembles o.toJson
      i.found (.ofRequest r) = sources hits ∧
        exactTotal? (i.search (.ofRequest r)) = some hits.length ∧
        hits? (i.search (.ofRequest r)) =
          some ((sources (hits.take 10000)).map (i.hit (Body.ofRequest r).kept?)) ∧
        (r.exact = [] → r.matching = [] → hits = held) := by
  intro i
  obtain ⟨held, hi, hnodup, hheld⟩ := exists_sources_foldl_put puts name
  have hsources : i.sources = sources held := congrArg Index.sources hi
  refine ⟨held, hsources, hnodup, hheld, ?_⟩
  intro hits
  have hselects : ∀ source, selects source (Body.ofRequest r).query =
      decide (r.Fits Json.Resembles source) := by
    intro source
    rw [selects_query hvalid, Bool.eq_iff_iff, decide_eq_true_eq]
    exact Request.fits_iff (fun v w hw => matchesLoosely_iff hw) hvalid source
  have hfound : i.found (.ofRequest r) = sources hits := by
    have hkeys : (Body.ofRequest r).sort = [] := by
      rw [Body.ofRequest, sort_ofPlan, Request.plan, hsort]
      rfl
    have hunsorted : ∀ entries : Fields Json,
        entries.mergeSort (fun x y => compareUnderAll [] x.2 y.2 != .gt) = entries :=
      fun entries => List.mergeSort_of_pairwise (List.pairwise_of_forall fun _ _ => rfl)
    rw [Index.found, hkeys, hunsorted, hsources, sources, List.filter_map]
    congr 1
    exact List.filter_congr fun o _ => hselects o.toJson
  have hcount : (sources hits).length = hits.length := List.length_map _
  have hsearch : i.search (.ofRequest r) = Index.response hits.length
      ((sources (hits.take 10000)).map (i.hit (Body.ofRequest r).kept?)) := by
    have hsize : (Body.ofRequest r).size? = some 10000 := size?_ofPlan _
    have hwindow : (sources hits).take 10000 = sources (hits.take 10000) := List.map_take.symm
    rw [Index.search, hfound, hsize, hcount, ← hwindow]
  rw [hsearch]
  refine ⟨hfound, rfl, rfl, ?_⟩
  intro hexact hmatch
  refine List.filter_eq_self.mpr fun o _ => decide_eq_true ⟨?_, ?_⟩
  · simp [hexact]
  · simp [hmatch]

open Classical in
/-- An order that is put again is found by a word of its new city. -/
theorem search_selects_fitting_word :
    let puts := [Service.pensOrder "a" "Aachen", Service.pensOrder "b" "Bonn",
      Service.pensOrder "a" "Bad Aachen"]
    let r : Request :=
      { exact := [("lineItems.name", [.string "pen"])], matching := [("city", .string "aachen")] }
    let i := puts.foldl Index.put { name := "orders" }
    r.check = .ok () ∧ r.sort = [] ∧ ∃ held : List Order, i.sources = sources held ∧
      let hits := held.filter fun o => r.Fits Json.Resembles o.toJson
      i.found (.ofRequest r) = sources hits ∧ Fields.names (sources hits) = ["a"] ∧
        exactTotal? (i.search (.ofRequest r)) = some hits.length := by
  intro puts r i
  have hvalid : r.check = .ok () := rfl
  have hids : Fields.names (i.found (.ofRequest r)) = ["a"] := by decide +kernel
  obtain ⟨held, hsources, -, -, hfound, htotal, -⟩ :=
    @search_selects_fitting puts "orders" r hvalid rfl
  exact ⟨hvalid, rfl, held, hsources, hfound, hfound ▸ hids, htotal⟩

end Search

end OrderDesk
