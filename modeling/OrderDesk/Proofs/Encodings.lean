import Mathlib.Data.List.Forall2
import Mathlib.Tactic.Common
import OrderDesk.Proofs.Equality
import OrderDesk.Proofs.Guards

/-! # Plans told apart by their queries

The body of a search tells the plan that it was made from. A query of the store tells it up to the
stored form of the literals, if its entries are compared in their order. Neither encoding leaves out
a part of a plan, and on valid requests no two fields meet under one stored name.
-/

namespace OrderDesk

namespace Filter

/-! ### Plans alike -/

/-- Clauses of one kind, on one field and with values that are related one by one. -/
inductive Clause.Alike (eq : Json → Json → Prop) : Clause → Clause → Prop
  | equalsOneOf (field : String) {values others : List Json} (h : List.Forall₂ eq values others) :
      Alike eq (.equalsOneOf field values) (.equalsOneOf field others)
  | matching (field : String) {value other : Json} (h : eq value other) :
      Alike eq (.matching field value) (.matching field other)

/-- Plans that are equal up to a relation between their literals. -/
structure Plan.Alike (eq : Json → Json → Prop) (p q : Plan) : Prop where
  clauses : List.Forall₂ (Clause.Alike eq) p.clauses q.clauses
  projection : p.projection = q.projection
  sort : p.sort = q.sort

/-- A request that was read, or built by operations on requests. -/
inductive Request.Made : Request → Prop
  | read {room : Json.Room} {d : Json.Draft} {r : Request} (h : Request.bind room d = .ok r) :
      Made r
  | empty : Made .empty
  | requireOneOf {r : Request} (hr : Made r) (field : String) (values : List Json) :
      Made (r.requireOneOf field values)
  | requireMatch {r : Request} (hr : Made r) (field : String) (value : Json) :
      Made (r.requireMatch field value)
  | project {r : Request} (hr : Made r) (fields : List String) : Made (r.project fields)
  | sortBy {r : Request} (hr : Made r) (key : SortKey) : Made (r.sortBy key)

theorem Request.Made.wellFormed {r : Request} (hr : r.Made) : r.WellFormed := by
  induction hr with
  | read h => exact Request.wellFormed_of_bind h
  | empty => exact .empty
  | requireOneOf _ field values ih => exact ih.requireOneOf field values
  | requireMatch _ field value ih => exact ih.requireMatch field value
  | project _ fields ih => exact ih.project fields
  | sortBy _ key ih => exact ih.sortBy key

end Filter

open OrderDesk.Filter (Request Clause Plan SortKey)

/-- What is written of a list unless it is empty tells the list. -/
theorem eq_of_rel_unless_nil {α β : Type} {R : β → β → Prop} (write : List α → β) {xs ys : List α}
    (hwrite : R (write xs) (write ys) → xs = ys)
    (h : Option.Rel R (if xs.isEmpty then none else some (write xs))
      (if ys.isEmpty then none else some (write ys))) : xs = ys := by
  split at h <;> split at h
  · next hxs hys => rw [List.isEmpty_iff.mp hxs, List.isEmpty_iff.mp hys]
  · cases h
  · cases h
  · exact hwrite (Option.rel_some_some.mp h)

/-! ### Bodies -/

namespace Search

theorem same_single {name other : String} {v w : Json} :
    (single name v).same (single other w) = true ↔ name = other ∧ v.same w = true := by
  rw [single, single, Json.same_object_iff]
  simp only [List.length_singleton, List.forall_mem_singleton, Fields.get?_cons, Fields.get?_nil,
    true_and]
  by_cases h : other = name
  · simp [h]
  · simp [h, Ne.symm h]

/-- A clause of a plan as the body spells it. -/
def clauseBody : Clause → Json
  | .equalsOneOf field values => exactClause (field, values)
  | .matching field value => matchClause (field, value)

/-- Each kind of clause has a word of its own, and a single value is not spelled as a list. -/
theorem alike_of_same_clauseBody {c d : Clause} (h : (clauseBody c).same (clauseBody d) = true) :
    c.Alike (fun v w => v.same w = true) d := by
  have hkinds : ∀ {kind other field name : String} {v w : Json},
      (single kind (single field v)).same (single other (single name w)) = true →
        kind = other ∧ field = name ∧ v.same w = true := by
    intro kind other field name v w hsame
    obtain ⟨hkind, hsaid⟩ := same_single.mp hsame
    exact ⟨hkind, same_single.mp hsaid⟩
  rcases c with ⟨field, _ | ⟨v, _ | ⟨v', vs⟩⟩⟩ | ⟨field, v⟩ <;>
    rcases d with ⟨name, _ | ⟨w, _ | ⟨w', ws⟩⟩⟩ | ⟨name, w⟩ <;>
    obtain ⟨hkind, rfl, hsame⟩ := hkinds h <;>
    first
    | exact absurd hkind (by decide)
    | exact .equalsOneOf _ (.cons hsame .nil)
    | exact .equalsOneOf _ (Json.same_array_iff.mp hsame)
    | exact .matching _ hsame

theorem clauses_plan (r : Request) : clauses r.plan = r.plan.clauses.map clauseBody := by
  rw [clauses, r.exactClauses_plan, r.matchClauses_plan, Request.plan, List.map_append,
    List.map_map, List.map_map]
  rfl

theorem same_clauses_of_condition {p q : Plan} (h : (condition p).same (condition q) = true) :
    List.Forall₂ (fun v w => v.same w = true) (clauses p) (clauses q) := by
  simp only [condition, List.isEmpty_iff] at h
  split at h <;> split at h
  · next hp hq =>
    rw [hp, hq]
    exact .nil
  · exact absurd (same_single.mp h).1 (by decide)
  · exact absurd (same_single.mp h).1 (by decide)
  · exact Json.same_array_iff.mp (same_single.mp (same_single.mp h).2).2

theorem same_strings_iff {as bs : List String} :
    (Json.array (as.map .string)).same (.array (bs.map .string)) = true ↔ as = bs := by
  rw [Json.same_array_iff, List.forall₂_map_left_iff, List.forall₂_map_right_iff]
  simp [Json.same, List.forall₂_eq_eq_eq]

theorem same_sortEntries_iff {keys others : List SortKey} :
    (Json.array (keys.map sortEntry)).same (.array (others.map sortEntry)) = true ↔
      keys = others := by
  have hentry : ∀ key other : SortKey,
      (sortEntry key).same (sortEntry other) = true ↔ key = other := by
    rintro ⟨field, direction⟩ ⟨name, other⟩
    rw [sortEntry, sortEntry, same_single, same_single]
    cases direction <;> cases other <;> simp [Json.same, Filter.Direction.keyword]
  rw [Json.same_array_iff, List.forall₂_map_left_iff, List.forall₂_map_right_iff]
  simp [hentry, List.forall₂_eq_eq_eq]

/-- What a body says of the plan: the query, the paths to keep if there are any, and the sort keys
likewise. -/
theorem get?_members_ofPlan (p : Plan) :
    (Fields.names (Body.ofPlan p).members).Nodup ∧
    Fields.get? (Body.ofPlan p).members "query" = some (condition p) ∧
    Fields.get? (Body.ofPlan p).members "_source" =
      (if p.projection.isEmpty then none else some (.array (p.projection.map .string))) ∧
    Fields.get? (Body.ofPlan p).members "sort" =
      if p.sort.isEmpty then none else some (.array (p.sort.map sortEntry)) := by
  cases hprojection : p.projection <;> cases hsort : p.sort <;>
    simp [Body.ofPlan, Fields.names, Fields.get?_cons, hprojection, hsort]

/-- Plans have equal bodies only if they are equal. -/
theorem alike_of_same_body {r s : Request}
    (h : (Body.ofRequest r).toJson.same (Body.ofRequest s).toJson = true) :
    r.plan.Alike (fun v w => v.same w = true) s.plan := by
  obtain ⟨hnodup, hquery, hsource, hsort⟩ := get?_members_ofPlan r.plan
  obtain ⟨-, hquery', hsource', hsort'⟩ := get?_members_ofPlan s.plan
  have hrel : ∀ name, Option.Rel (fun v w => v.same w = true)
      (Fields.get? (Body.ofPlan r.plan).members name)
      (Fields.get? (Body.ofPlan s.plan).members name) := Json.rel_get?_of_same hnodup h
  constructor
  · have hcondition := hrel "query"
    rw [hquery, hquery', Option.rel_some_some] at hcondition
    have hclauses := same_clauses_of_condition hcondition
    rw [clauses_plan, clauses_plan, List.forall₂_map_left_iff, List.forall₂_map_right_iff]
      at hclauses
    exact hclauses.imp fun c d => alike_of_same_clauseBody
  · have hpaths := hrel "_source"
    rw [hsource, hsource'] at hpaths
    exact eq_of_rel_unless_nil (fun paths => Json.array (paths.map .string))
      same_strings_iff.mp hpaths
  · have hkeys := hrel "sort"
    rw [hsort, hsort'] at hkeys
    exact eq_of_rel_unless_nil (fun keys => Json.array (keys.map sortEntry))
      same_sortEntries_iff.mp hkeys

end Search

/-! ### Values with entries in order -/

namespace Bson

mutual

/-- Equality of values that looks at the order of entries. -/
def sameInOrder : Bson → Bson → Bool
  | array a, array b => sameItemsInOrder a b
  | document a, document b => sameEntriesInOrder a b
  | a, b => a.same b

def sameItemsInOrder : List Bson → List Bson → Bool
  | [], [] => true
  | a :: as, b :: bs => a.sameInOrder b && sameItemsInOrder as bs
  | _, _ => false

def sameEntriesInOrder : List (String × Bson) → List (String × Bson) → Bool
  | [], [] => true
  | a :: as, b :: bs => sameEntryInOrder a b && sameEntriesInOrder as bs
  | _, _ => false

def sameEntryInOrder : String × Bson → String × Bson → Bool
  | (name, value), (other, found) => name = other && value.sameInOrder found

end

theorem sameItemsInOrder_iff {as bs : List Bson} :
    sameItemsInOrder as bs = true ↔ List.Forall₂ (fun v w => v.sameInOrder w = true) as bs := by
  induction as generalizing bs with
  | nil => cases bs <;> simp [sameItemsInOrder]
  | cons a as ih => cases bs <;> simp [sameItemsInOrder, ih]

theorem sameEntryInOrder_iff {a b : String × Bson} :
    sameEntryInOrder a b = true ↔ a.1 = b.1 ∧ a.2.sameInOrder b.2 = true := by
  rw [sameEntryInOrder]
  simp

theorem sameEntriesInOrder_iff {as bs : List (String × Bson)} :
    sameEntriesInOrder as bs = true ↔
      List.Forall₂ (fun a b => a.1 = b.1 ∧ a.2.sameInOrder b.2 = true) as bs := by
  induction as generalizing bs with
  | nil => cases bs <;> simp [sameEntriesInOrder]
  | cons a as ih => cases bs <;> simp [sameEntriesInOrder, sameEntryInOrder_iff, ih]

theorem sameInOrder_int32 {m n : Int32} :
    (int32 m).sameInOrder (int32 n) = true ↔ m = n := by
  simp [sameInOrder, same]

end Bson

namespace Documents

open OrderDesk.Filter (isReserved)

/-- How the store sees two literals as equal. -/
def LiteralsAlike (v w : Json) : Prop := (literal v).sameInOrder (literal w) = true

/-- Equality of queries that looks at the order of all entries. -/
structure Query.SameInOrder (p q : Query) : Prop where
  filter : Bson.sameEntriesInOrder p.filter q.filter = true
  projection :
    Option.Rel (fun d d' => Bson.sameEntriesInOrder d d' = true) p.projection q.projection
  sort : Option.Rel (fun d d' => Bson.sameEntriesInOrder d d' = true) p.sort q.sort

/-- Entries that agree under stored names agree under the names themselves. -/
theorem forall₂_of_storedName {α : Type} (field : α → String) {R : α → α → Prop} {xs ys : List α}
    (hxs : ∀ x ∈ xs, isReserved (field x) = false) (hys : ∀ y ∈ ys, isReserved (field y) = false)
    (h : List.Forall₂ (fun x y => storedName (field x) = storedName (field y) ∧ R x y) xs ys) :
    List.Forall₂ (fun x y => field x = field y ∧ R x y) xs ys := by
  induction h with
  | nil => exact .nil
  | cons hhead _ ih =>
      obtain ⟨hx, hxs⟩ := List.forall_mem_cons.mp hxs
      obtain ⟨hy, hys⟩ := List.forall_mem_cons.mp hys
      exact .cons ⟨storedName_inj hx hy hhead.1, hhead.2⟩ (ih hxs hys)

/-! ### The filter -/

theorem sameInOrder_membership {values others : List Json} :
    (membership values).sameInOrder (membership others) = true ↔
      List.Forall₂ LiteralsAlike values others := by
  simp [membership, Bson.sameInOrder, Bson.sameEntriesInOrder_iff, Bson.sameItemsInOrder_iff]
  rfl

variable {r s : Request}

theorem alike_of_exactPredicate (hr : r.WellFormed) (hs : s.WellFormed) (hvalid : r.check = .ok ())
    (hvalid' : s.check = .ok ())
    (h : Bson.sameEntriesInOrder (exactPredicate r.plan) (exactPredicate s.plan) = true) :
    List.Forall₂ (fun c d => c.1 = d.1 ∧ List.Forall₂ LiteralsAlike c.2 d.2) r.exact s.exact := by
  rw [exactPredicate_plan hvalid hr.exact_nodup, exactPredicate_plan hvalid' hs.exact_nodup,
    Bson.sameEntriesInOrder_iff, List.forall₂_map_left_iff, List.forall₂_map_right_iff] at h
  simp only [sameInOrder_membership] at h
  exact forall₂_of_storedName Prod.fst (Request.isReserved_exact hvalid)
    (Request.isReserved_exact hvalid') h

theorem alike_of_matchPredicate (hr : r.WellFormed) (hs : s.WellFormed) (hvalid : r.check = .ok ())
    (hvalid' : s.check = .ok ())
    (h : Bson.sameEntriesInOrder (matchPredicate r.plan) (matchPredicate s.plan) = true) :
    List.Forall₂ (fun c d => c.1 = d.1 ∧ LiteralsAlike c.2 d.2) r.matching s.matching := by
  rw [matchPredicate_plan hvalid hr, matchPredicate_plan hvalid' hs, Bson.sameEntriesInOrder_iff,
    List.forall₂_map_left_iff, List.forall₂_map_right_iff] at h
  exact forall₂_of_storedName Prod.fst (Request.isReserved_matching hvalid)
    (Request.isReserved_matching hvalid') h

/-- No clause is stored under the name that joins two predicates. -/
theorem and_not_mem_exactPredicate (hr : r.WellFormed) (hvalid : r.check = .ok ()) :
    "$and" ∉ Fields.names (exactPredicate r.plan) := by
  rw [exactPredicate_plan hvalid hr.exact_nodup]
  intro hmem
  obtain ⟨entry, hentry, hname⟩ := List.mem_map.mp hmem
  obtain ⟨clause, hclause, rfl⟩ := List.mem_map.mp hentry
  have hchecked := (Request.check_eq_ok.mp hvalid).1 clause hclause
  obtain ⟨hfield, -⟩ := Filter.checkExact_eq_ok.mp hchecked
  exact (storedName_ne_operator (Filter.checkField_eq_ok.mp hfield).2).1 hname

theorem names_eq_of_sameEntriesInOrder {d d' : Document}
    (h : Bson.sameEntriesInOrder d d' = true) : Fields.names d = Fields.names d' := by
  rw [Bson.sameEntriesInOrder_iff] at h
  rw [Fields.names, Fields.names, ← List.forall₂_eq_eq_eq, List.forall₂_map_left_iff,
    List.forall₂_map_right_iff]
  exact h.imp fun entry other hentry => hentry.1

/-- Two predicates that are equal in order are so part by part, whether their parts are joined or
not. -/
theorem sameEntriesInOrder_parts (hr : r.WellFormed) (hs : s.WellFormed) (hvalid : r.check = .ok ())
    (hvalid' : s.check = .ok ())
    (h : Bson.sameEntriesInOrder (predicate r.plan) (predicate s.plan) = true) :
    Bson.sameEntriesInOrder (exactPredicate r.plan) (exactPredicate s.plan) = true ∧
      Bson.sameEntriesInOrder (matchPredicate r.plan) (matchPredicate s.plan) = true := by
  have hnames := names_eq_of_sameEntriesInOrder h
  have hplain := and_not_mem_exactPredicate hr hvalid
  have hplain' := and_not_mem_exactPredicate hs hvalid'
  rw [predicate_plan, predicate_plan] at h hnames
  split at h <;> split at h
  · next hmatch hmatch' =>
    rw [matchPredicate_plan hvalid hr, matchPredicate_plan hvalid' hs, hmatch, hmatch']
    exact ⟨h, by simp [Bson.sameEntriesInOrder]⟩
  · next hmatch hmatch' =>
    rw [if_pos hmatch, if_neg hmatch'] at hnames
    exact absurd (hnames ▸ List.mem_cons_self) hplain
  · next hmatch hmatch' =>
    rw [if_neg hmatch, if_pos hmatch'] at hnames
    exact absurd (hnames ▸ List.mem_cons_self) hplain'
  · simpa [Bson.sameEntriesInOrder, Bson.sameEntryInOrder, Bson.sameInOrder, Bson.sameItemsInOrder]
      using h

theorem alike_clauses (hr : r.WellFormed) (hs : s.WellFormed) (hvalid : r.check = .ok ())
    (hvalid' : s.check = .ok ())
    (h : Bson.sameEntriesInOrder (predicate r.plan) (predicate s.plan) = true) :
    List.Forall₂ (Clause.Alike LiteralsAlike) r.plan.clauses s.plan.clauses := by
  obtain ⟨hexact, hmatch⟩ := sameEntriesInOrder_parts hr hs hvalid hvalid' h
  apply List.rel_append
  · rw [List.forall₂_map_left_iff, List.forall₂_map_right_iff]
    refine (alike_of_exactPredicate hr hs hvalid hvalid' hexact).imp ?_
    rintro ⟨field, values⟩ ⟨-, others⟩ ⟨rfl, hvalues⟩
    exact .equalsOneOf field hvalues
  · rw [List.forall₂_map_left_iff, List.forall₂_map_right_iff]
    refine (alike_of_matchPredicate hr hs hvalid hvalid' hmatch).imp ?_
    rintro ⟨field, value⟩ ⟨-, other⟩ ⟨rfl, hvalue⟩
    exact .matching field hvalue

/-! ### Flags -/

/-- The flags of a projection: one for each path, and zero for the identity unless it is a path. -/
def flags (fields : List String) : Fields Int32 :=
  fields.map (fun field => (storedName field, 1)) ++
    if callerId ∈ fields then [] else [(storedId, 0)]

theorem projection?_eq {fields : List String} (hnodup : fields.Nodup)
    (hreserved : ∀ field ∈ fields, isReserved field = false) :
    projection? fields =
      if fields.isEmpty then none
      else some ((flags fields).map fun flag => (flag.1, .int32 flag.2)) := by
  have hkept : Fields.ofEntries (fields.map fun field => (storedName field, Bson.int32 1)) =
      fields.map fun field => (storedName field, .int32 1) :=
    ofEntries_storedNames (fun _ => .int32 1) (by simpa using hnodup) hreserved
  have hid : Fields.has (fields.map fun field => (storedName field, Bson.int32 1)) storedId = true ↔
      callerId ∈ fields := by
    rw [Fields.has_eq, Fields.names, List.map_map, List.mem_map]
    constructor
    · rintro ⟨field, hfield, hname⟩
      rwa [← (storedName_eq_storedId (hreserved field hfield)).mp hname]
    · exact fun hfield => ⟨callerId, hfield, rfl⟩
  simp only [projection?, hkept, hid, flags]
  congr 2
  split <;> simp

/-- The paths are what is flagged with one. -/
theorem map_storedName_eq (fields : List String) :
    fields.map storedName = Fields.names ((flags fields).filter (·.2 = 1)) := by
  rw [flags, List.filter_append, List.filter_eq_self.mpr (by simp)]
  split <;> simp [Fields.names, Function.comp_def]

theorem eq_of_flags {fields others : List String}
    (hreserved : ∀ field ∈ fields, isReserved field = false)
    (hreserved' : ∀ field ∈ others, isReserved field = false)
    (h : Bson.sameEntriesInOrder ((flags fields).map fun flag => (flag.1, .int32 flag.2))
      ((flags others).map fun flag => (flag.1, .int32 flag.2)) = true) : fields = others := by
  have hflags : flags fields = flags others := by
    rw [Bson.sameEntriesInOrder_iff, List.forall₂_map_left_iff, List.forall₂_map_right_iff] at h
    rw [← List.forall₂_eq_eq_eq]
    refine h.imp ?_
    rintro ⟨name, m⟩ ⟨other, n⟩ ⟨hname, hflag⟩
    exact Prod.ext hname (Bson.sameInOrder_int32.mp hflag)
  have hnames : List.Forall₂ (fun field other => storedName field = storedName other ∧ True)
      fields others := by
    have hmap := map_storedName_eq fields
    rw [hflags, ← map_storedName_eq, ← List.forall₂_eq_eq_eq, List.forall₂_map_left_iff,
      List.forall₂_map_right_iff] at hmap
    exact hmap.imp fun field other heq => ⟨heq, trivial⟩
  have hequal := forall₂_of_storedName id hreserved hreserved' hnames
  rw [← List.forall₂_eq_eq_eq]
  exact hequal.imp fun field other heq => heq.1

theorem eq_of_sortFlags {keys others : List SortKey}
    (hreserved : ∀ key ∈ keys, isReserved key.field = false)
    (hreserved' : ∀ key ∈ others, isReserved key.field = false)
    (h : Bson.sameEntriesInOrder (sortFlags keys) (sortFlags others) = true) : keys = others := by
  rw [sortFlags, sortFlags, Bson.sameEntriesInOrder_iff, List.forall₂_map_left_iff,
    List.forall₂_map_right_iff] at h
  rw [← List.forall₂_eq_eq_eq]
  refine (forall₂_of_storedName SortKey.field hreserved hreserved' h).imp ?_
  rintro ⟨field, direction⟩ ⟨-, other⟩ ⟨rfl, hdirection⟩
  cases direction <;> cases other <;>
    first
    | rfl
    | exact absurd (Bson.sameInOrder_int32.mp hdirection) (by decide)

theorem isReserved_covering (hvalid : r.check = .ok ()) :
    ∀ field ∈ Filter.covering r.fields, isReserved field = false := fun field hfield =>
  Request.isReserved_fields hvalid field (Filter.mem_covering_iff.mp hfield).1

/-- Valid requests have equal queries only if their plans are equal up to the stored form of the
literals. -/
theorem alike_of_same_query (hr : r.WellFormed) (hs : s.WellFormed) (hvalid : r.check = .ok ())
    (hvalid' : s.check = .ok ()) (h : (Query.ofRequest r).SameInOrder (.ofRequest s)) :
    r.plan.Alike LiteralsAlike s.plan where
  clauses := alike_clauses hr hs hvalid hvalid' h.filter
  projection := by
    have hprojection : Option.Rel _ (projection? (Filter.covering r.fields))
        (projection? (Filter.covering s.fields)) := h.projection
    have hreserved := isReserved_covering hvalid
    have hreserved' := isReserved_covering hvalid'
    rw [projection?_eq (Filter.nodup_covering r.fields) hreserved,
      projection?_eq (Filter.nodup_covering s.fields) hreserved'] at hprojection
    exact eq_of_rel_unless_nil
      (fun fields => (flags fields).map fun flag => (flag.1, Bson.int32 flag.2))
      (eq_of_flags hreserved hreserved') hprojection
  sort := by
    have hsort : Option.Rel _ (sort? r.plan) (sort? s.plan) := h.sort
    rw [sort?_plan hvalid hr, sort?_plan hvalid' hs] at hsort
    exact eq_of_rel_unless_nil sortFlags
      (eq_of_sortFlags (Request.isReserved_sort hvalid) (Request.isReserved_sort hvalid')) hsort

end Documents

namespace Filter.Request

/-- Two valid requests that were read or built have equal plans if their searches have equal bodies.
If their queries are equal entry by entry, so are their plans, with every literal in its stored
form. -/
theorem queries_tell_plans {r s : Request} (hr : r.Made) (hs : s.Made) (hvalid : r.check = .ok ())
    (hvalid' : s.check = .ok ()) :
    ((Search.Body.ofRequest r).toJson.same (Search.Body.ofRequest s).toJson = true →
        r.plan.Alike (fun v w => v.same w = true) s.plan) ∧
      ((Documents.Query.ofRequest r).SameInOrder (.ofRequest s) →
        r.plan.Alike Documents.LiteralsAlike s.plan) :=
  ⟨Search.alike_of_same_body,
    Documents.alike_of_same_query hr.wellFormed hs.wellFormed hvalid hvalid'⟩

/-- Equal queries leave room for the sign of a zero and nothing else. -/
theorem queries_tell_plans_zero :
    let asking (total : Json) : Request :=
      ((empty.requireOneOf "total" [total]).requireMatch "city" (.string "$ne")).project
        ["total", "id"]
    let r := asking (.number (.float .zero))
    let s := asking (.number (.float { negative := true, mantissa := 0, exponent := 0 }))
    ((Search.Body.ofRequest r).toJson.same (Search.Body.ofRequest s).toJson = true ∧
        r.plan.Alike (fun v w => v.same w = true) s.plan) ∧
      (Documents.Query.ofRequest r).SameInOrder (.ofRequest s) ∧
        r.plan.Alike Documents.LiteralsAlike s.plan := by
  intro asking r s
  have hmade : ∀ total, (asking total).Made := fun total =>
    ((Made.empty.requireOneOf _ _).requireMatch _ _).project _
  have hvalid : r.check = .ok () := rfl
  have hvalid' : s.check = .ok () := rfl
  obtain ⟨hbody, hquery⟩ := queries_tell_plans (hmade _) (hmade _) hvalid hvalid'
  have hsame : (Search.Body.ofRequest r).toJson.same (Search.Body.ofRequest s).toJson = true := by
    decide +kernel
  have hin : (Documents.Query.ofRequest r).SameInOrder (.ofRequest s) :=
    ⟨by decide +kernel, .some (by decide +kernel), .none⟩
  exact ⟨⟨hsame, hbody hsame⟩, hin, hquery hin⟩

end Filter.Request

end OrderDesk
