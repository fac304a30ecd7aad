import Mathlib.Tactic.Common
import OrderDesk.Proofs.Sorting
import OrderDesk.Proofs.Windows

/-! # Loose matches

The index matches a text by its words, each of which is enough, where the store asks for the same
value. A text without words matches nothing in the index. Apart from such texts, whatever equals the
value of a clause matches it as well, so that the index answers a request with all that the store
answers it with, and maybe more.
-/

namespace OrderDesk

open OrderDesk.Filter (Request)

/-! ### Words to match -/

namespace Json

/-- Only texts resemble a text. -/
theorem resembles_string_iff {v : Json} {wanted : String} :
    v.Resembles (string wanted) ↔
      ∃ text, v = string text ∧ ∃ term, Text.IsTerm text term ∧ Text.IsTerm wanted term := by
  constructor
  · intro h
    cases h with
    | texts htext hwanted => exact ⟨_, rfl, _, htext, hwanted⟩
    | spelt hw h => cases hw
    | equal hv h =>
        cases h with
        | same => cases hv
  · rintro ⟨text, rfl, term, htext, hwanted⟩
    exact .texts htext hwanted

/-- Whatever equals a value resembles it, unless the value is a text without letters and digits,
which does not even resemble itself. -/
theorem forall_resembles_iff {w : Json} :
    (∀ v : Json, v.Equals w → v.Resembles w) ↔
      ∀ text, w = string text → ∃ c ∈ text.toList, Text.isAlphanumeric c = true := by
  constructor
  · rintro h text rfl
    obtain ⟨-, -, term, -, hterm⟩ := resembles_string_iff.mp (h _ (.same rfl))
    exact Text.exists_isTerm_iff.mp ⟨term, hterm⟩
  · intro h v hv
    cases hv with
    | numbers heq => exact .equal rfl (.numbers heq)
    | same hnone =>
        cases w with
        | string text =>
            obtain ⟨term, htext⟩ := Text.exists_isTerm_iff.mpr (h text rfl)
            exact .texts htext htext
        | null | boolean b | number n | array items | object members =>
            exact .equal rfl (.same hnone)

end Json

namespace Search

/-- A clause with a text selects the sources where its field reaches a text with a term of it. -/
theorem selects_text_iff {source : Json} {field wanted : String} :
    selects source (matchClause (field, .string wanted)) = true ↔
      ∃ text, source.Reaches (FieldPath.segments field) (.string text) ∧
        ∃ term, Text.IsTerm text term ∧ Text.IsTerm wanted term := by
  rw [selects_matchClause rfl, meetsMatch, List.any_eq_true]
  simp only [mem_reached_iff, matchesLoosely_iff (w := .string wanted) rfl,
    Json.resembles_string_iff]
  constructor
  · rintro ⟨-, hreaches, text, rfl, hshared⟩
    exact ⟨text, hreaches, hshared⟩
  · rintro ⟨text, hreaches, hshared⟩
    exact ⟨_, hreaches, text, rfl, hshared⟩

/-- A clause with a text selects by the words of the text. On both sides of a separator stand texts
whose words are enough, each for itself, and a text without words selects nothing. -/
theorem match_text_wordwise {c : Char} (hc : Text.isAlphanumeric c = false) (a b : String)
    (field : String) (source : Json) :
    let both := a ++ String.singleton c ++ b
    let clause (text : String) := matchClause (field, .string text)
    (selects source (clause both) = true ↔
      selects source (clause a) = true ∨ selects source (clause b) = true) ∧
    Text.terms both = Text.terms a ++ Text.terms b ∧
    (∀ blank : String, (∀ d ∈ blank.toList, Text.isAlphanumeric d = false) →
      selects source (clause blank) = false) ∧
    ∀ wanted, selects source (clause wanted) = true ↔
      ∃ text, source.Reaches (FieldPath.segments field) (.string text) ∧
        ∃ term, Text.IsTerm text term ∧ Text.IsTerm wanted term := by
  intro both clause
  have hterms : Text.terms both = Text.terms a ++ Text.terms b :=
    Text.terms_append_separator hc a b
  refine ⟨?_, hterms, ?_, fun wanted => selects_text_iff⟩
  · have hshared : ∀ term, Text.IsTerm both term ↔ Text.IsTerm a term ∨ Text.IsTerm b term := by
      intro term
      rw [← Text.mem_terms_iff, ← Text.mem_terms_iff, ← Text.mem_terms_iff, hterms,
        List.mem_append]
    simp only [clause, selects_text_iff, hshared, and_or_left, exists_or]
  · intro blank hblank
    rw [Bool.eq_false_iff]
    intro hselects
    obtain ⟨-, -, term, -, hterm⟩ := selects_text_iff.mp hselects
    obtain ⟨d, hd, halphanumeric⟩ := Text.exists_isTerm_iff.mp ⟨term, hterm⟩
    rw [hblank d hd] at halphanumeric
    cases halphanumeric

/-- A hyphen between two words, of which the second one is in the name of the city. -/
theorem match_text_wordwise_hyphen :
    let source := (Service.pensOrder "a" "Honnef").toJson
    let clause (text : String) := matchClause ("city", .string text)
    Text.isAlphanumeric '-' = false ∧
      selects source (clause "Bonn-HONNEF") = true ∧ selects source (clause "Bonn") = false ∧
      selects source (clause "HONNEF") = true ∧ selects source (clause "--") = false := by
  intro source clause
  have hhyphen : Text.isAlphanumeric '-' = false := by decide +kernel
  obtain ⟨hboth, -, hblank, -⟩ := match_text_wordwise hhyphen "Bonn" "HONNEF" "city" source
  have hbonn : selects source (clause "Bonn") = false := by decide +kernel
  have hhonnef : selects source (clause "HONNEF") = true := by decide +kernel
  have hhyphens : ∀ d ∈ "--".toList, Text.isAlphanumeric d = false := by
    intro d hd
    obtain rfl : d = '-' := by simpa using hd
    exact hhyphen
  exact ⟨hhyphen, hboth.mpr (.inr hhonnef), hbonn, hhonnef, hblank "--" hhyphens⟩

end Search

/-! ### Looser than equality -/

/-- A request that asks for what resembles its values is met wherever these equal. -/
theorem Filter.Request.Fits.loosely {r : Request} {source : Json}
    (hwords : ∀ clause ∈ r.matching, ∀ text, clause.2 = .string text →
      ∃ c ∈ text.toList, Text.isAlphanumeric c = true)
    (h : r.Fits Json.Equals source) : r.Fits Json.Resembles source where
  exact := h.exact
  matching := by
    intro clause hclause
    obtain ⟨v, hreaches, hequals⟩ := h.matching clause hclause
    exact ⟨v, hreaches, Json.forall_resembles_iff.mpr (hwords clause hclause) v hequals⟩

/-- What is selected among images, and then sorted, are the images of what is selected. -/
theorem exists_map_eq_mergeSort {α β : Type} {f : α → β} {p : α → Bool} {q : β → Bool}
    (h : ∀ x, q (f x) = p x) (xs : List α) (le : β → β → Bool) :
    ∃ ys : List α, ((xs.map f).filter q).mergeSort le = ys.map f ∧ ys.Perm (xs.filter p) := by
  have hselected : (xs.map f).filter q = (xs.filter p).map f := by
    rw [List.filter_map]
    exact congrArg (List.map f) (List.filter_congr fun x _ => h x)
  have hsorted : ((xs.filter p).mergeSort fun a b => le (f a) (f b)).map f =
      ((xs.filter p).map f).mergeSort le := List.map_mergeSort fun a _ b _ => rfl
  exact ⟨_, by rw [hselected, hsorted], List.mergeSort_perm _ _⟩

open Classical in
/-- A query without paths to keep finds the documents of the orders that fit the request, however it
sorts them. -/
theorem Documents.exists_find_eq_map {r : Request} (hvalid : r.check = .ok ())
    (hexact : (Fields.names r.exact).Nodup) (hmatching : (Fields.names r.matching).Nodup)
    (hfields : r.fields = []) (os : List Order) :
    ∃ found : List Order, Collection.find (os.map document) (.ofRequest r) = found.map document ∧
      found.Perm (os.filter fun o => r.Fits Json.Equals o.toJson) := by
  have hkept : (Query.ofRequest r).projection = none := by
    change projection? r.plan.projection = none
    rw [Request.plan, hfields]
    rfl
  -- The predicate is that of a request without sort keys, which may name a field twice.
  let unsorted : Request := { r with sort := [] }
  have hunsorted : unsorted.WellFormed := ⟨hexact, hmatching, List.nodup_nil⟩
  have hunsorted' : unsorted.check = .ok () := by
    obtain ⟨hexact, hmatching, hfields, -⟩ := Request.check_eq_ok.mp hvalid
    exact Request.check_eq_ok.mpr ⟨hexact, hmatching, hfields, List.forall_mem_nil _⟩
  rw [find_eq_mergeSort _ hkept]
  apply exists_map_eq_mergeSort
  intro o
  change selects (document o) (predicate unsorted.plan) = _
  rw [selects_predicate hunsorted' hunsorted, Request.selects, Bool.eq_iff_iff, decide_eq_true_eq]
  exact Request.fits_iff (fun v w hw => Search.equal_iff hw) hvalid o.toJson

open Classical in
/-- A search finds the sources of the orders that fit the request. -/
theorem Search.exists_found_eq_sources {r : Request} (hvalid : r.check = .ok ()) (name : String)
    (os : List Order) :
    ∃ found : List Order, Index.found ⟨name, sources os⟩ (.ofRequest r) = sources found ∧
      found.Perm (os.filter fun o => r.Fits Json.Resembles o.toJson) := by
  rw [found_eq_fitting _ hvalid rfl rfl, Index.fitting]
  exact exists_map_eq_mergeSort (fun o => rfl) os _

namespace Service

open Documents (Collection)
open Search (Index)

open Classical in
/-- Backends that hold the same orders, in whatever sequence, both answer a request: the store with
the orders that fit it by equality, the index with those that fit it by resemblance. If every text
to match has a letter or a digit, the index returns whatever the store returns. -/
theorem filter_index_looser {os puts : List Order} {r : Request} (name : String)
    (hmade : ∀ o ∈ os, o.IsMade) (hids : (os.map (·.id)).Nodup) (hlength : os.length ≤ 10000)
    (hputs : puts.Perm os) (hvalid : r.check = .ok ()) (hexact : (Fields.names r.exact).Nodup)
    (hmatching : (Fields.names r.matching).Nodup) (hfields : r.fields = [])
    (hwords : ∀ clause ∈ r.matching, ∀ text, clause.2 = .string text →
      ∃ c ∈ text.toList, Text.isAlphanumeric c = true) :
    ∃ store, os.foldlM Collection.insert [] = .ok store ∧
      let b : Backends := ⟨store, puts.foldl Index.put { name }⟩
      ∃ found shown, (Backends.run (filter .store r) b).1 = .ok found ∧
        (Backends.run (filter .index r) b).1 = .ok shown ∧
        found.Perm ((os.filter fun o => r.Fits Json.Equals o.toJson).map Order.truncated) ∧
        shown.Perm ((os.filter fun o => r.Fits Json.Resembles o.toJson).map Order.truncated) ∧
        ∀ o ∈ found, o ∈ shown := by
  have hindexed : puts.foldl Index.put { name } = ⟨name, Search.sources puts⟩ :=
    foldl_put ((hputs.map _).nodup_iff.mpr hids) name
  obtain ⟨found, hfind, hfound⟩ := Documents.exists_find_eq_map hvalid hexact hmatching hfields os
  obtain ⟨shown, hsearch, hshown⟩ := Search.exists_found_eq_sources hvalid name puts
  replace hshown := hshown.trans (hputs.filter _)
  have hstorable : ∀ {answer : List Order} {p : Order → Bool}, answer.Perm (os.filter p) →
      ∀ o ∈ answer, o.IsStorable :=
    fun hanswer o ho => (hmade o (List.mem_filter.mp (hanswer.mem_iff.mp ho)).1).isStorable
  refine ⟨os.map Documents.document, foldlM_insert hids, found.map Order.truncated,
    shown.map Order.truncated, ?_, ?_, hfound.map _, hshown.map _, ?_⟩
  · rw [run_filter_store hvalid, hfind]
    exact Documents.orders_map_document (hstorable hfound)
  · have hwindow : shown.length ≤ Search.windowSize := by
      rw [hshown.length_eq]
      exact Nat.le_trans (List.length_filter_le _ _) hlength
    rw [run_filter_index hvalid, hindexed,
      Search.orders_search hsearch (hstorable hshown) hwindow, hfields]
    rfl
  · apply List.map_subset
    intro o ho
    rw [hfound.mem_iff, List.mem_filter, decide_eq_true_eq] at ho
    rw [hshown.mem_iff, List.mem_filter, decide_eq_true_eq]
    exact ⟨ho.1, ho.2.loosely hwords⟩

/-- By a word of its city, the index finds an order that the store does not find by it. -/
theorem filter_index_looser_word :
    let os := [pensOrder "a" "Bonn", pensOrder "b" "Bonn-Beuel"]
    let puts := [pensOrder "b" "Bonn-Beuel", pensOrder "a" "Bonn"]
    let r : Request :=
      { exact := [("status", [.string "NEW", .string "PAID"])]
        matching := [("city", .string "Bonn"), ("lineItems.quantity", .ofNat 2)]
        sort := [⟨"id", .descending⟩] }
    let b : Backends := ⟨os.map Documents.document, puts.foldl Index.put {}⟩
    r.check = .ok () ∧ ∃ found shown, (Backends.run (filter .store r) b).1 = .ok found ∧
      (Backends.run (filter .index r) b).1 = .ok shown ∧ found.map (·.id) = ["a"] ∧
      (∀ o ∈ found, o ∈ shown) ∧ (pensOrder "b" "Bonn-Beuel").truncated ∈ shown := by
  intro os puts r b
  have hvalid : r.check = .ok () := rfl
  have hmade : ∀ o ∈ os, o.IsMade := by simp [os, pensOrder_isMade]
  have hwords : ∀ clause ∈ r.matching, ∀ text, clause.2 = .string text →
      ∃ c ∈ text.toList, Text.isAlphanumeric c = true := by
    simp only [r, List.forall_mem_cons]
    refine ⟨?_, ?_, List.forall_mem_nil _⟩
    · rintro text ⟨⟩
      exact ⟨'B', by decide, by decide +kernel⟩
    · rintro text ⟨⟩
  obtain ⟨store, hstore, found, shown, hfound, hshown, -, hperm, hall⟩ :=
    filter_index_looser "orders" hmade (by decide) (by decide) (List.Perm.swap _ _ _) hvalid
      (by decide) (by decide) rfl hwords
  obtain rfl : os.map Documents.document = store :=
    Except.ok.inj ((foldlM_insert (by decide)).symm.trans hstore)
  have hids : (Backends.run (filter .store r) b).1.toOption.map (List.map (·.id)) = some ["a"] := by
    decide +kernel
  rw [hfound] at hids
  refine ⟨hvalid, found, shown, hfound, hshown, Option.some.inj hids, hall, ?_⟩
  have hfits : r.Fits Json.Resembles (pensOrder "b" "Bonn-Beuel").toJson :=
    (Request.fits_iff (fun v w hw => Search.matchesLoosely_iff hw) hvalid _).mp (by decide +kernel)
  classical
  rw [hperm.mem_iff]
  apply List.mem_map_of_mem
  rw [List.mem_filter, decide_eq_true_eq]
  exact ⟨by simp [os], hfits⟩

end Service

end OrderDesk
