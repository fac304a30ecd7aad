import Mathlib.Data.List.Forall2
import Mathlib.Tactic.Common
import OrderDesk.Proofs.Selection

/-! # Windows of hits

A search returns the first hits of all that it finds, up to the size of a window, and counts all of
them. What is read from the response is everything that was found, order by order, or nothing: the
count gives a response away that was cut short.
-/

namespace OrderDesk.Search

open OrderDesk.Filter (Request)

/-! ### Bodies with a window -/

namespace Body

variable (b : Body) (size : Nat)

theorem query_withSize : (b.withSize size).query = b.query := by
  rw [query, withSize, Fields.get?_set_of_ne _ _ (by decide), ← query]

theorem sort_withSize : (b.withSize size).sort = b.sort := by
  rw [sort, withSize, Fields.get?_set_of_ne _ _ (by decide), ← sort]

theorem size?_withSize : (b.withSize size).size? = some size := by
  rw [size?, withSize, Fields.get?_set_self]
  rfl

end Body

/-! ### Everything that fits -/

open Classical in
/-- The sources that fit a request, with their identities, in the sequence in which the sort keys
put them. Sources that the keys do not tell apart stay in the sequence of the index. -/
noncomputable def Index.fitting (i : Index) (r : Request) : Fields Json :=
  (i.sources.filter fun entry => r.Fits Json.Resembles entry.2).mergeSort fun x y =>
    compareUnderAll (r.sort.map bodyKey) x.2 y.2 != .gt

open Classical in
/-- A search finds what fits the request, whatever the size of its window. -/
theorem found_eq_fitting (i : Index) {r : Request} {body : Body} (hvalid : r.check = .ok ())
    (hquery : body.query = (Body.ofRequest r).query)
    (hsort : body.sort = (Body.ofRequest r).sort) : i.found body = i.fitting r := by
  have hkeys : (Body.ofRequest r).sort = r.sort.map bodyKey := sort_ofPlan r.plan
  rw [Index.found, Index.fitting, hquery, hsort, hkeys]
  congr 1
  apply List.filter_congr
  intro entry _
  rw [selects_query hvalid, Bool.eq_iff_iff, decide_eq_true_eq]
  exact Request.fits_iff (fun v w hw => matchesLoosely_iff hw) hvalid entry.2

/-- What is read from a search through a window is all that fits the request, and it is read if all
of that fits into the window and holds orders. If more fits the request than the window lets
through, the index is reported. -/
theorem search_never_short (i : Index) {r : Request} {body : Body} {n : Nat}
    (hvalid : r.check = .ok ())
    (hbody : body = .ofRequest r ∧ n = 10000 ∨ body = (Body.ofRequest r).withSize n) :
    (∀ os, orders (i.search body) = .ok os ↔ (i.fitting r).length ≤ n ∧
      List.Forall₂ (fun entry o => Shows (i.hit body.kept? entry) o) (i.fitting r) os) ∧
    (n < (i.fitting r).length → orders (i.search body) =
      .error (.undecodable .index (HitFault.cutShort n (i.fitting r).length).message)) := by
  have hwindow : body.size? = some n ∧ i.found body = i.fitting r := by
    rcases hbody with ⟨rfl, rfl⟩ | rfl
    · exact ⟨size?_ofPlan _, found_eq_fitting i hvalid rfl rfl⟩
    · exact ⟨Body.size?_withSize .., found_eq_fitting i hvalid (Body.query_withSize ..)
        (Body.sort_withSize ..)⟩
  obtain ⟨hsize, hfound⟩ := hwindow
  have hsearch : i.search body = Index.response (i.fitting r).length
      (((i.fitting r).take n).map (i.hit body.kept?)) := by
    simp only [Index.search, hsize, hfound]
  rw [hsearch]
  constructor
  · intro os
    rw [orders_response_eq_ok, List.length_map, List.forall₂_map_left_iff]
    by_cases hfits : (i.fitting r).length ≤ n
    · rw [List.take_of_length_le hfits]
      simp [hfits]
    · have hshort : ¬(i.fitting r).length ≤ ((i.fitting r).take n).length := by
        rw [List.length_take]
        omega
      exact iff_of_false (fun h => hshort h.1) fun h => hfits h.1
  · intro hmore
    have hshown : (((i.fitting r).take n).map (i.hit body.kept?)).length = n := by
      rw [List.length_map, List.length_take, Nat.min_eq_left (Nat.le_of_lt hmore)]
    rw [orders_response_cutShort (by rwa [hshown]), hshown]

/-- Of two orders for pens, a window for one hit shows neither. -/
theorem search_never_short_pens :
    let puts := [Service.pensOrder "a" "Aachen", Service.pensOrder "b" "Bonn"]
    let i := puts.foldl Index.put {}
    let r : Request := { matching := [("lineItems.name", .string "pen")], fields := ["city"] }
    let body := (Body.ofRequest r).withSize 1
    r.check = .ok () ∧ body = (Body.ofRequest r).withSize 1 ∧ (i.fitting r).length = 2 ∧
      orders (i.search body) = .error (.undecodable .index (HitFault.cutShort 1 2).message) := by
  intro puts i r body
  have hvalid : r.check = .ok () := rfl
  have hlength : (i.fitting r).length = 2 := by
    rw [← found_eq_fitting i hvalid rfl rfl, Index.found, List.length_mergeSort]
    decide +kernel
  have hshort := (search_never_short i hvalid (.inr (rfl : body = _))).2
  rw [hlength] at hshort
  exact ⟨hvalid, rfl, hlength, hshort (by decide)⟩

end OrderDesk.Search
