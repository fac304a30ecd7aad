import Mathlib.Data.List.Nodup
import Mathlib.Tactic.Common
import OrderDesk.Proofs.Paths
import OrderDesk.Proofs.Requests

/-! # What a request selects, and in which order

The answer to a request is a list of orders, given by the JSON form of each. A query of the store
finds the documents of that answer, and the body of a search finds its sources. The store keeps
arrays besides their items and puts missing values first, where the index puts them last, so the
order agrees if a sort key resolves in all orders or in none.
-/

namespace OrderDesk

open OrderDesk.Filter (Request SortKey)

theorem all_eq_of_mem {α : Type} {xs : List α} {p q : α → Bool} (h : ∀ x ∈ xs, p x = q x) :
    xs.all p = xs.all q := by
  rw [Bool.eq_iff_iff, List.all_eq_true, List.all_eq_true]
  exact forall₂_congr fun x hx => by rw [h x hx]

theorem any_eq_of_mem {α : Type} {xs : List α} {p q : α → Bool} (h : ∀ x ∈ xs, p x = q x) :
    xs.any p = xs.any q := by
  rw [Bool.eq_iff_iff, List.any_eq_true, List.any_eq_true]
  exact exists_congr fun x => and_congr_right fun hx => by rw [h x hx]

/-! ### The answer to a request -/

namespace Search

/-- Whether a field of a source equals one of some values. -/
def meetsExact (source : Json) (clause : String × List Json) : Bool :=
  (reached source clause.1).any fun value => clause.2.any (equal value)

/-- Whether a field of a source matches a value, as a backend understands it. -/
def meetsMatch (matching : Json → Json → Bool) (source : Json) (clause : String × Json) : Bool :=
  (reached source clause.1).any (matching · clause.2)

/-- The sort key of a body. -/
def bodyKey (key : SortKey) : BodyKey := ⟨key.field, key.direction = .descending⟩

end Search

namespace Filter.Request

def selects (r : Request) (o : Order) : Bool := r.exact.all (Search.meetsExact o.toJson)

/-- Whether one order may stand before another one. -/
def precedes (r : Request) (a b : Order) : Bool :=
  Search.compareUnderAll (r.sort.map Search.bodyKey) a.toJson b.toJson != .gt

/-- The orders that a request selects, sorted by its keys. Orders that the keys do not tell apart
stay in sequence. -/
def answer (r : Request) (os : List Order) : List Order :=
  (os.filter r.selects).mergeSort r.precedes

/-- Every sort key resolves to a value in all orders or in none of them. -/
def SortsEvenly (r : Request) (os : List Order) : Prop :=
  ∀ key ∈ r.sort, (∀ o ∈ os, Search.reached o.toJson key.field ≠ []) ∨
    ∀ o ∈ os, Search.reached o.toJson key.field = []

theorem SortsEvenly.subset {r : Request} {os os' : List Order} (h : r.SortsEvenly os)
    (hsubset : os' ⊆ os) : r.SortsEvenly os' :=
  fun key hkey => (h key hkey).imp (fun hall o ho => hall o (hsubset ho))
    fun hnone o ho => hnone o (hsubset ho)

theorem mem_of_mem_answer {r : Request} {os : List Order} {o : Order} (h : o ∈ r.answer os) :
    o ∈ os :=
  (List.mem_filter.mp ((List.mergeSort_perm _ _).subset h)).1

theorem length_answer_le (r : Request) (os : List Order) : (r.answer os).length ≤ os.length := by
  rw [answer, (List.mergeSort_perm _ _).length_eq]
  exact List.length_filter_le _ _

end Filter.Request

/-! ### Searches -/

namespace Search

theorem query_ofPlan (p : Filter.Plan) : (Body.ofPlan p).query = condition p := rfl

theorem bodyKey?_sortEntry (key : SortKey) : bodyKey? (sortEntry key) = some (bodyKey key) := by
  obtain ⟨field, direction⟩ := key
  cases direction <;> rfl

theorem sort_ofPlan (p : Filter.Plan) : (Body.ofPlan p).sort = p.sort.map bodyKey := by
  have hentries : (p.sort.map sortEntry).filterMap bodyKey? = p.sort.map bodyKey := by
    have hkeys : bodyKey? ∘ sortEntry = some ∘ bodyKey := funext bodyKey?_sortEntry
    rw [List.filterMap_map, hkeys, List.filterMap_eq_map]
  cases hsort : p.sort with
  | nil =>
      cases hkept : p.projection <;>
        simp [Body.sort, Body.ofPlan, hsort, hkept, Fields.get?_cons]
  | cons key keys =>
      rw [hsort] at hentries
      cases hkept : p.projection <;>
        simp [Body.sort, Body.ofPlan, hsort, hkept, Fields.get?_cons, ← hentries]

theorem size?_ofPlan (p : Filter.Plan) : (Body.ofPlan p).size? = some windowSize := by
  cases hsort : p.sort <;> cases hkept : p.projection <;>
    simp [Body.size?, Body.ofPlan, hsort, hkept, Fields.get?_cons, Json.asNat?, Json.ofNat,
      Json.Number.toNat?]

/-- A body without paths to keep keeps all. -/
theorem kept?_ofPlan {p : Filter.Plan} (h : p.projection = []) : (Body.ofPlan p).kept? = none := by
  cases hsort : p.sort <;>
    simp [Body.kept?, Body.ofPlan, hsort, h, Fields.get?_cons]

theorem parameter_of_isLiteral {v : Json} (h : Filter.isLiteral v = true) (name : String) :
    parameter name v = v := by
  cases v with
  | object members => cases h
  | null | boolean b | number n | string s | array items => rfl

theorem selects_single (source : Json) (kind field : String) (said : Json)
    (hkind : kind ≠ "match_all" ∧ kind ≠ "bool") :
    selects source (single kind (single field said)) = holds source kind field said := by
  simp [single, selects, selectsMembers, selectsMember, soleField?, hkind]

/-- A term, or terms, ask for one of the values of a clause. -/
theorem selects_exactClause {source : Json} {clause : String × List Json}
    (h : ∀ v ∈ clause.2, Filter.isLiteral v = true) :
    selects source (exactClause clause) = meetsExact source clause := by
  obtain ⟨field, values⟩ := clause
  have hterms : selects source (single "terms" (single field (.array values))) =
      meetsExact source (field, values) := by
    rw [selects_single _ _ _ _ (by decide)]
    rfl
  cases values with
  | nil => exact hterms
  | cons value values =>
      cases values with
      | nil =>
          have hliteral := parameter_of_isLiteral (h value List.mem_cons_self) "value"
          rw [exactClause, selects_single _ _ _ _ (by decide)]
          simp [holds, meetsExact, hliteral]
      | cons next values => exact hterms

theorem selects_matchClause {source : Json} {clause : String × Json}
    (h : Filter.isLiteral clause.2 = true) :
    selects source (matchClause clause) = meetsMatch matchesLoosely source clause := by
  obtain ⟨field, value⟩ := clause
  rw [matchClause, selects_single _ _ _ _ (by decide)]
  simp [holds, meetsMatch, parameter_of_isLiteral h]

theorem selectsAll_eq (source : Json) (items : List Json) :
    selectsAll source items = items.all (selects source) := by
  induction items with
  | nil => rfl
  | cons item items ih => rw [selectsAll, ih, List.all_cons]

/-- A condition holds if all clauses do. -/
theorem selects_condition {p : Filter.Plan} {source : Json}
    (hexact : ∀ clause ∈ p.exactClauses, ∀ v ∈ clause.2, Filter.isLiteral v = true)
    (hmatch : ∀ clause ∈ p.matchClauses, Filter.isLiteral clause.2 = true) :
    selects source (condition p) = (p.exactClauses.all (meetsExact source) &&
      p.matchClauses.all (meetsMatch matchesLoosely source)) := by
  have hall : (clauses p).all (selects source) = (p.exactClauses.all (meetsExact source) &&
      p.matchClauses.all (meetsMatch matchesLoosely source)) := by
    rw [clauses, List.all_append, List.all_map, List.all_map]
    congr 1
    · exact all_eq_of_mem fun clause hclause => selects_exactClause (hexact clause hclause)
    · exact all_eq_of_mem fun clause hclause => selects_matchClause (hmatch clause hclause)
  rw [← hall]
  cases hclauses : clauses p with
  | nil => simp [condition, hclauses, single, selects, selectsMembers, selectsMember]
  | cons clause rest =>
      rw [← selectsAll_eq]
      simp [condition, hclauses, single, selects, selectsMembers, selectsMember, selectsRequired,
        selectsGroups, selectsGroup, selectsClauses]

theorem selects_query {r : Request} (hvalid : r.check = .ok ()) (source : Json) :
    selects source (Body.ofRequest r).query = (r.exact.all (meetsExact source) &&
      r.matching.all (meetsMatch matchesLoosely source)) := by
  rw [Body.ofRequest, query_ofPlan, selects_condition, r.exactClauses_plan, r.matchClauses_plan]
  · rw [r.exactClauses_plan]
    exact Request.isLiteral_exact hvalid
  · rw [r.matchClauses_plan]
    exact Request.isLiteral_matching hvalid

/-- A search finds the sources of the answer, under their identities. -/
theorem found_ofRequest {r : Request} {os : List Order} {name : String}
    (hvalid : r.check = .ok ()) (hmatch : r.matching = []) :
    Index.found ⟨name, os.map fun o => (o.id, o.toJson)⟩ (.ofRequest r) =
      (r.answer os).map fun o => (o.id, o.toJson) := by
  have hselects : ∀ source, selects source (Body.ofRequest r).query =
      r.exact.all (meetsExact source) := by
    intro source
    rw [selects_query hvalid, hmatch, List.all_nil, Bool.and_true]
  have hsort : (Body.ofRequest r).sort = r.sort.map bodyKey := sort_ofPlan r.plan
  have hmap : (r.answer os).map (fun o => (o.id, o.toJson)) =
      ((os.filter r.selects).map fun o => (o.id, o.toJson)).mergeSort fun x y =>
        compareUnderAll (r.sort.map bodyKey) x.2 y.2 != .gt :=
    List.map_mergeSort fun a _ b _ => rfl
  rw [hmap, Index.found, List.filter_map, hsort]
  simp only [hselects]
  rfl

/-- What a search finds is listed as a whole if it fits into the window. -/
theorem search_eq_response {i : Index} {r : Request}
    (hlength : (i.found (.ofRequest r)).length ≤ windowSize) :
    i.search (.ofRequest r) = Index.response (i.found (.ofRequest r)).length
      ((i.found (.ofRequest r)).map (i.hit (Body.ofRequest r).kept?)) := by
  have hsize : (Body.ofRequest r).size? = some windowSize := size?_ofPlan _
  simp only [Index.search, hsize, List.take_of_length_le hlength]

end Search

/-! ### Queries -/

namespace Documents

theorem storedName_inj {field other : String} (hfield : Filter.isReserved field = false)
    (hother : Filter.isReserved other = false) (h : storedName field = storedName other) :
    field = other := by
  simp only [Filter.isReserved, Bool.or_eq_false_iff, decide_eq_false_iff_not] at hfield hother
  unfold storedName at h
  split at h <;> split at h
  · next hid hid' => rw [hid, hid']
  · exact absurd h.symm hother.1
  · exact absurd h hfield.1
  · exact h

/-- Entries under the stored names of distinct fields are the record of themselves, as long as no
field is reserved. -/
theorem ofEntries_storedNames {α : Type} {xs : List α} {field : α → String} (value : α → Bson)
    (hnodup : (xs.map field).Nodup) (h : ∀ x ∈ xs, Filter.isReserved (field x) = false) :
    Fields.ofEntries (xs.map fun x => (storedName (field x), value x)) =
      xs.map fun x => (storedName (field x), value x) := by
  have hfields : ∀ name ∈ xs.map field, Filter.isReserved name = false := by
    intro name hname
    obtain ⟨x, hx, rfl⟩ := List.mem_map.mp hname
    exact h x hx
  have hstored : ((xs.map field).map storedName).Nodup :=
    List.Nodup.map_on (fun name hname other hother heq =>
      storedName_inj (hfields name hname) (hfields other hother) heq) hnodup
  apply Fields.ofEntries_of_nodup
  rw [Fields.names, List.map_map]
  rwa [List.map_map] at hstored

theorem storedName_ne_operator {field : String} (h : Filter.isFieldName field = true) :
    storedName field ≠ "$and" ∧ storedName field ≠ "$or" := by
  unfold storedName
  split
  · decide
  · constructor
    · rintro rfl
      revert h
      decide
    · rintro rfl
      revert h
      decide

/-- What holds of no array and depends on values alone holds of something in the store if it does
in the index. -/
theorem any_reached {o : Order} {field : String} (hfield : Filter.isReserved field = false)
    {p : Bson → Bool} {q : Json → Bool} (hliteral : ∀ v, p (literal v) = q v)
    (harray : ∀ items, p (.array items) = false) :
    (reached (document o) (storedName field)).any p = (Search.reached o.toJson field).any q := by
  have hmap : ((Search.reached o.toJson field).map literal).any p =
      (Search.reached o.toJson field).any q := by
    rw [List.any_map]
    exact List.any_congr rfl hliteral
  rcases reached_document hfield with h | h
  · rw [h o, List.any_append, hmap, List.any_cons, harray, List.any_nil, Bool.or_false,
      Bool.or_false]
  · rw [h o, hmap]

theorem eqv_array_literal (items : List Bson) {w : Json} (hw : Filter.isLiteral w = true) :
    (Bson.array items).eqv (literal w) = false := by
  cases w with
  | null | array items | object members => cases hw
  | number n =>
      rcases numberLiteral_cases n with ⟨i, h⟩ | ⟨x, h⟩ <;>
        simp [literal, h, Bson.eqv, Bson.number?, Bson.same]
  | boolean b | string s => simp [literal, Bson.eqv, Bson.number?, Bson.same]

/-- A literal is no operator, so a condition that is one asks for equality. -/
theorem meets_literal {w : Json} (hw : Filter.isLiteral w = true) (values : List Bson) :
    meets values (literal w) = values.any (·.eqv (literal w)) := by
  cases w with
  | null | array items | object members => cases hw
  | number n => rcases numberLiteral_cases n with ⟨i, h⟩ | ⟨x, h⟩ <;> rw [literal, h] <;> rfl
  | boolean b | string s => rfl

theorem selects_eq (d : Document) (entries : List (String × Bson)) :
    selects d entries = entries.all (selectsEntry d) := by
  induction entries with
  | nil => rfl
  | cons entry entries ih => rw [selects, ih, List.all_cons]

/-- Membership in the values of a clause, as the store checks it. -/
theorem selectsEntry_membership {o : Order} {clause : String × List Json}
    (hvalid : Filter.checkExact clause = .ok ()) :
    selectsEntry (document o) (storedName clause.1, membership clause.2) =
      Search.meetsExact o.toJson clause := by
  obtain ⟨hfield, -, hliterals⟩ := Filter.checkExact_eq_ok.mp hvalid
  obtain ⟨hreserved, hname⟩ := Filter.checkField_eq_ok.mp hfield
  obtain ⟨hand, hor⟩ := storedName_ne_operator hname
  have hmeets : meets (reached (document o) (storedName clause.1)) (membership clause.2) =
      (reached (document o) (storedName clause.1)).any fun value =>
        (clause.2.map literal).any value.eqv := by
    simp [meets, membership, isOperator, operatorHolds]
  rw [selectsEntry, if_neg hand, if_neg hor, hmeets, Search.meetsExact]
  refine any_reached hreserved (fun v => ?_) fun items => ?_
  · rw [List.any_map]
    exact any_eq_of_mem fun w hw => eqv_literal v (hliterals w hw)
  · rw [List.any_map, List.any_eq_false]
    intro w hw
    rw [Function.comp_apply, eqv_array_literal items (hliterals w hw)]
    exact Bool.false_ne_true

/-- Equality with the value of a clause, as the store checks it. -/
theorem selectsEntry_equality {o : Order} {clause : String × Json}
    (hvalid : Filter.checkMatch clause = .ok ()) :
    selectsEntry (document o) (storedName clause.1, literal clause.2) =
      Search.meetsMatch Search.equal o.toJson clause := by
  obtain ⟨hfield, hliteral⟩ := Filter.checkMatch_eq_ok.mp hvalid
  obtain ⟨hreserved, hname⟩ := Filter.checkField_eq_ok.mp hfield
  obtain ⟨hand, hor⟩ := storedName_ne_operator hname
  have hmeets : meets (reached (document o) (storedName clause.1)) (literal clause.2) =
      (reached (document o) (storedName clause.1)).any (·.eqv (literal clause.2)) :=
    meets_literal hliteral _
  rw [selectsEntry, if_neg hand, if_neg hor, hmeets, Search.meetsMatch]
  exact any_reached hreserved (fun v => eqv_literal v hliteral)
    fun items => eqv_array_literal items hliteral

theorem exactPredicate_plan {r : Request} (hvalid : r.check = .ok ())
    (hexact : (Fields.names r.exact).Nodup) :
    exactPredicate r.plan =
      r.exact.map fun clause => (storedName clause.1, membership clause.2) := by
  rw [exactPredicate, r.exactClauses_plan]
  exact ofEntries_storedNames _ hexact (Request.isReserved_exact hvalid)

theorem matchPredicate_plan {r : Request} (hvalid : r.check = .ok ()) (hr : r.WellFormed) :
    matchPredicate r.plan =
      r.matching.map fun clause => (storedName clause.1, literal clause.2) := by
  rw [matchPredicate, r.matchClauses_plan]
  exact ofEntries_storedNames _ hr.matching_nodup (Request.isReserved_matching hvalid)

/-- The predicate of a plan joins its two parts, also where it leaves out the second one. -/
theorem selects_predicate_parts (d : Document) (p : Filter.Plan) :
    selects d (predicate p) = (selects d (exactPredicate p) && selects d (matchPredicate p)) := by
  unfold predicate
  cases hmatch : matchPredicate p with
  | nil => simp [selects]
  | cons entry entries =>
      simp [selects, selectsEntry, verdicts, itemVerdicts]

/-- The predicate holds if all clauses do. -/
theorem selects_predicate {r : Request} (hvalid : r.check = .ok ()) (hr : r.WellFormed)
    (o : Order) :
    selects (document o) (predicate r.plan) =
      (r.selects o && r.matching.all (Search.meetsMatch Search.equal o.toJson)) := by
  obtain ⟨hexact, hmatch, -⟩ := Request.check_eq_ok.mp hvalid
  rw [selects_predicate_parts, exactPredicate_plan hvalid hr.exact_nodup,
    matchPredicate_plan hvalid hr, selects_eq, selects_eq, List.all_map, List.all_map,
    Request.selects]
  congr 1
  · exact all_eq_of_mem fun clause hclause => selectsEntry_membership (hexact clause hclause)
  · exact all_eq_of_mem fun clause hclause => selectsEntry_equality (hmatch clause hclause)

/-! ### Sorted documents -/

/-- Sort keys as the store spells them. -/
def sortFlags (keys : List SortKey) : Document :=
  keys.map fun key => (storedName key.field, directionFlag key.direction)

theorem sort?_plan {r : Request} (hvalid : r.check = .ok ()) (hr : r.WellFormed) :
    sort? r.plan = if r.sort.isEmpty then none else some (sortFlags r.sort) := by
  have hentries : Fields.ofEntries (sortFlags r.sort) = sortFlags r.sort :=
    ofEntries_storedNames _ hr.sort_nodup (Request.isReserved_sort hvalid)
  rw [sort?, Request.plan, ← sortFlags, hentries]

theorem isNegative_directionFlag (direction : Filter.Direction) :
    isNegative (directionFlag direction) = decide (direction = .descending) := by
  cases direction <;> decide +kernel

/-- The first values that a sort key reaches compare alike in the store and in the index. -/
theorem compareFirst_document {a b : Order} {field : String}
    (hfield : Filter.isReserved field = false) {v w : Json} {vs ws : List Json}
    (ha : Search.reached a.toJson field = v :: vs)
    (hb : Search.reached b.toJson field = w :: ws) :
    compareFirst (reached (document a) (storedName field))
      (reached (document b) (storedName field)) = Search.compareValues v w := by
  rcases reached_document hfield with h | h
  · rw [h a, h b, ha, hb]
    exact compareValues_literal v w
  · rw [h a, h b, ha, hb]
    exact compareValues_literal v w

/-- Where the index has no values, the store has none or empty arrays. -/
theorem compareFirst_document_nil {a b : Order} {field : String}
    (hfield : Filter.isReserved field = false) (ha : Search.reached a.toJson field = [])
    (hb : Search.reached b.toJson field = []) :
    compareFirst (reached (document a) (storedName field))
      (reached (document b) (storedName field)) = .eq := by
  rcases reached_document hfield with h | h
  · rw [h a, h b, ha, hb]
    rfl
  · rw [h a, h b, ha, hb]
    rfl

/-- One sort key compares two orders alike in the store and in the index, if it resolves in both
or in neither. -/
theorem compareUnder_document {a b : Order} {key : SortKey}
    (hfield : Filter.isReserved key.field = false)
    (hresolve : (Search.reached a.toJson key.field ≠ [] ∧ Search.reached b.toJson key.field ≠ []) ∨
      Search.reached a.toJson key.field = [] ∧ Search.reached b.toJson key.field = []) :
    compareUnder (storedName key.field, directionFlag key.direction) (document a) (document b) =
      Search.compareUnder (Search.bodyKey key) a.toJson b.toJson := by
  rw [compareUnder, Search.compareUnder, isNegative_directionFlag, Search.bodyKey]
  rcases hresolve with ⟨ha, hb⟩ | ⟨ha, hb⟩
  · obtain ⟨v, vs, ha⟩ := List.exists_cons_of_ne_nil ha
    obtain ⟨w, ws, hb⟩ := List.exists_cons_of_ne_nil hb
    simp only [compareFirst_document hfield ha hb, ha, hb]
  · simp only [compareFirst_document_nil hfield ha hb, ha, hb, Ordering.swap_eq, ite_self]

theorem compareUnderAll_document {a b : Order} {keys : List SortKey}
    (hfields : ∀ key ∈ keys, Filter.isReserved key.field = false)
    (hresolve : ∀ key ∈ keys,
      (Search.reached a.toJson key.field ≠ [] ∧ Search.reached b.toJson key.field ≠ []) ∨
        Search.reached a.toJson key.field = [] ∧ Search.reached b.toJson key.field = []) :
    compareUnderAll (sortFlags keys) (document a) (document b) =
      Search.compareUnderAll (keys.map Search.bodyKey) a.toJson b.toJson := by
  induction keys with
  | nil => rfl
  | cons key keys ih =>
      obtain ⟨hfield, hfields⟩ := List.forall_mem_cons.mp hfields
      obtain ⟨hkey, hresolve⟩ := List.forall_mem_cons.mp hresolve
      have hrest := ih hfields hresolve
      rw [compareUnderAll, Search.compareUnderAll] at hrest ⊢
      rw [sortFlags, List.map_cons, List.map_cons, List.foldr_cons, List.foldr_cons,
        ← sortFlags, hrest, compareUnder_document hfield hkey]

/-- The sort of a query puts documents in the sequence of their orders. -/
theorem precedes_document {r : Request} {a b : Order} (hvalid : r.check = .ok ())
    (hsort : r.SortsEvenly [a, b]) :
    r.precedes a b = (compareUnderAll (sortFlags r.sort) (document a) (document b) != .gt) := by
  rw [Request.precedes, compareUnderAll_document (Request.isReserved_sort hvalid)]
  intro key hkey
  have ha : a ∈ [a, b] := List.mem_cons_self
  have hb : b ∈ [a, b] := List.mem_cons_of_mem a List.mem_cons_self
  exact (hsort key hkey).imp (fun h => ⟨h a ha, h b hb⟩) fun h => ⟨h a ha, h b hb⟩

/-- A query of the store finds the documents of the answer. -/
theorem find_ofRequest {r : Request} {os : List Order} (hvalid : r.check = .ok ())
    (hr : r.WellFormed) (hmatch : r.matching = []) (hfields : r.fields = [])
    (hsort : r.SortsEvenly os) :
    Collection.find (os.map document) (.ofRequest r) = (r.answer os).map document := by
  have hfound : (os.map document).filter (fun d => selects d (predicate r.plan)) =
      (os.filter r.selects).map document := by
    rw [List.filter_map]
    congr 1
    refine List.filter_congr fun o _ => ?_
    rw [Function.comp_apply, selects_predicate hvalid hr, hmatch, List.all_nil, Bool.and_true]
  have hkept : projection? r.plan.projection = none := by
    rw [Request.plan, hfields]
    rfl
  have hprecedes : ∀ a ∈ os.filter r.selects, ∀ b ∈ os.filter r.selects,
      r.precedes a b = (compareUnderAll (sortFlags r.sort) (document a) (document b) != .gt) := by
    intro a ha b hb
    refine precedes_document hvalid (hsort.subset fun o ho => ?_)
    simp only [List.mem_cons, List.not_mem_nil, or_false] at ho
    rcases ho with rfl | rfl
    · exact (List.mem_filter.mp ha).1
    · exact (List.mem_filter.mp hb).1
  have hanswer : ((os.filter r.selects).mergeSort r.precedes).map document =
      ((os.filter r.selects).map document).mergeSort fun a b =>
        compareUnderAll (sortFlags r.sort) a b != .gt := List.map_mergeSort hprecedes
  simp only [Collection.find, Query.ofRequest, Query.ofPlan, hfound, hkept, sort?_plan hvalid hr]
  cases hkeys : r.sort with
  | nil =>
      -- Without keys the store does not sort, and sorting by no keys changes nothing.
      have hall : (os.filter r.selects).Pairwise fun a b => r.precedes a b = true := by
        refine List.pairwise_of_forall fun a b => ?_
        rw [Request.precedes, hkeys]
        rfl
      rw [Request.answer, List.mergeSort_of_pairwise hall]
      rfl
  | cons key keys => rw [Request.answer, hanswer, hkeys]; rfl

end Documents

end OrderDesk
