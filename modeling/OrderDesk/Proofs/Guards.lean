import Mathlib.Tactic.Common
import OrderDesk.Proofs.Projections

/-! # Guards against operators

A valid request names fields by words joined by points and compares them to literals. No such name
starts as an operator of the store does, and no literal contains further names, so the operators in
a query are those that the encoding writes, however many clauses a request has. The same guards
leave one field with one literal, or a list of them, in every clause of a search.
-/

namespace OrderDesk

open OrderDesk.Filter (Request)

/-! ### Field names -/

namespace FieldPath

theorem split_of_not_mem {separator : Char} {part : List Char} (h : separator ∉ part) :
    split separator part = [part] := by
  induction part with
  | nil => rfl
  | cons c cs ih =>
      obtain ⟨hc, hcs⟩ := not_or.mp (mt List.mem_cons.mpr h)
      rw [split, if_neg (Ne.symm hc), ih hcs]

/-- The first part of a list ends at the first separator. -/
theorem split_append_cons {separator : Char} {part : List Char} (h : separator ∉ part)
    (rest : List Char) :
    split separator (part ++ separator :: rest) = part :: split separator rest := by
  induction part with
  | nil => rw [List.nil_append, split, if_pos rfl]
  | cons c cs ih =>
      obtain ⟨hc, hcs⟩ := not_or.mp (mt List.mem_cons.mpr h)
      rw [List.cons_append, split, if_neg (Ne.symm hc), ih hcs]

/-- Parts without separators are found again behind separators. -/
theorem split_flatMap {separator : Char} {first : List Char} {rest : List (List Char)}
    (hfirst : separator ∉ first) (hrest : ∀ part ∈ rest, separator ∉ part) :
    split separator (first ++ rest.flatMap (separator :: ·)) = first :: rest := by
  induction rest generalizing first with
  | nil => rw [List.flatMap_nil, List.append_nil, split_of_not_mem hfirst]
  | cons part rest ih =>
      obtain ⟨hpart, hrest⟩ := List.forall_mem_cons.mp hrest
      rw [List.flatMap_cons, List.cons_append, split_append_cons hfirst, ih hpart hrest]

theorem intercalate_cons (separator : Char) (first : List Char) (rest : List (List Char)) :
    [separator].intercalate (first :: rest) = first ++ rest.flatMap (separator :: ·) := by
  induction rest generalizing first with
  | nil => simp
  | cons part rest ih =>
      rw [List.intercalate_cons_cons, ih, List.flatMap_cons]
      simp

end FieldPath

namespace Filter

/-- A letter of the ASCII alphabet or an underscore. -/
def WordStart (c : Char) : Prop := ('A' ≤ c ∧ c ≤ 'Z') ∨ ('a' ≤ c ∧ c ≤ 'z') ∨ c = '_'

/-- A letter or a digit of ASCII, or an underscore. -/
def WordChar (c : Char) : Prop := WordStart c ∨ ('0' ≤ c ∧ c ≤ '9')

/-- The grammar of field names: a word, and any number of segments behind it, each after a point and
none of them empty. -/
def FieldName (field : String) : Prop :=
  ∃ (start : Char) (first : List Char) (rest : List (List Char)),
    field.toList = start :: first ++ rest.flatMap ('.' :: ·) ∧
    WordStart start ∧ (∀ c ∈ first, WordChar c) ∧
    ∀ segment ∈ rest, segment ≠ [] ∧ ∀ c ∈ segment, WordChar c

theorem isWordStart_iff {c : Char} : isWordStart c = true ↔ WordStart c := by
  have halpha : c.isAlpha = (c.isUpper || c.isLower) := rfl
  have hupper : c.isUpper = decide ('A' ≤ c ∧ c ≤ 'Z') := rfl
  have hlower : c.isLower = (decide ('a' ≤ c) && decide (c ≤ 'z')) := rfl
  simp [isWordStart, WordStart, halpha, hupper, hlower, or_assoc]

theorem isWordChar_iff {c : Char} : isWordChar c = true ↔ WordChar c := by
  rw [WordChar, ← isWordStart_iff]
  simp [isWordChar, isWordStart, Char.isAlphanum, Char.isDigit, Char.le_def, or_right_comm]

theorem WordChar.ne_point {c : Char} (h : WordChar c) : c ≠ '.' := by
  rintro rfl
  revert h
  rw [← isWordChar_iff]
  decide

/-- The recogniser of field names accepts the words of the grammar. -/
theorem isFieldName_iff {field : String} : isFieldName field = true ↔ FieldName field := by
  unfold isFieldName
  constructor
  · intro h
    have hjoin := FieldPath.intercalate_split '.' field.toList
    split at h
    · next c first rest hsplit =>
      rw [hsplit, FieldPath.intercalate_cons] at hjoin
      simp only [Bool.and_eq_true, List.all_eq_true, Bool.not_eq_true', List.isEmpty_eq_false_iff,
        isWordStart_iff, isWordChar_iff] at h
      exact ⟨c, first, rest, hjoin.symm, h.1.1, h.1.2, h.2⟩
    · cases h
  · rintro ⟨c, first, rest, hfield, hstart, hfirst, hrest⟩
    have hsplit : FieldPath.split '.' field.toList = (c :: first) :: rest := by
      rw [hfield]
      apply FieldPath.split_flatMap
      · rw [List.mem_cons, not_or]
        exact ⟨(WordChar.ne_point (.inl hstart)).symm, fun hmem => (hfirst _ hmem).ne_point rfl⟩
      · exact fun segment hsegment hmem => ((hrest segment hsegment).2 _ hmem).ne_point rfl
    rw [hsplit]
    simp only [Bool.and_eq_true, List.all_eq_true, Bool.not_eq_true', List.isEmpty_eq_false_iff,
      isWordStart_iff, isWordChar_iff]
    exact ⟨⟨hstart, hfirst⟩, hrest⟩

theorem isReserved_iff {field : String} :
    isReserved field = true ↔ field = "_id" ∨ "_id.".toList <+: field.toList := by
  have hpoint : "_id".toList ++ ['.'] = "_id.".toList := by decide
  rw [isReserved, Bool.or_eq_true, decide_eq_true_eq, FieldPath.isBelow, hpoint,
    List.isPrefixOf_iff_prefix]

/-! ### What may be asked -/

/-- A field that a request may name. -/
structure Nameable (field : String) : Prop where
  spelt : FieldName field
  free : field ≠ "_id" ∧ ¬"_id.".toList <+: field.toList

theorem checkField_iff {part : Section} {field : String} :
    checkField part field = .ok () ↔ Nameable field := by
  rw [checkField_eq_ok, ← Bool.not_eq_true, isReserved_iff, not_or, isFieldName_iff]
  exact ⟨fun h => ⟨h.2, h.1⟩, fun h => ⟨h.free, h.spelt⟩⟩

/-- A value that a field may be compared to. -/
def Literal (v : Json) : Prop := (∃ s, v = .string s) ∨ (∃ n, v = .number n) ∨ ∃ b, v = .boolean b

theorem isLiteral_iff {v : Json} : isLiteral v = true ↔ Literal v := by
  cases v <;> simp [isLiteral, Literal, Json.isScalar, Json.isNull]

/-- What a request may ask for: fields that may be named, and literals to compare them to. -/
structure Request.Askable (r : Request) : Prop where
  exact : ∀ entry ∈ r.exact, Nameable entry.1 ∧ entry.2 ≠ [] ∧ ∀ v ∈ entry.2, Literal v
  matching : ∀ entry ∈ r.matching, Nameable entry.1 ∧ Literal entry.2
  fields : ∀ field ∈ r.fields, Nameable field
  sort : ∀ key ∈ r.sort, Nameable key.field

/-- The check of a request accepts whatever may be asked and nothing else. -/
theorem Request.check_iff {r : Request} : r.check = .ok () ↔ r.Askable := by
  simp only [check_eq_ok, checkExact_eq_ok, checkMatch_eq_ok, checkField_iff, isLiteral_iff]
  exact ⟨fun h => ⟨h.1, h.2.1, h.2.2.1, h.2.2.2⟩, fun h => ⟨h.exact, h.matching, h.fields, h.sort⟩⟩

end Filter

/-! ### Names in a query -/

namespace Documents

/-- A stored value that is neither an array nor a document. -/
def IsScalar : Bson → Prop
  | .array _ | .document _ => False
  | _ => True

mutual

/-- The names of all entries in a value, at any depth. -/
def namesIn : Bson → List String
  | .array items => namesInItems items
  | .document entries => namesInEntries entries
  | _ => []

def namesInItems : List Bson → List String
  | [] => []
  | item :: items => namesIn item ++ namesInItems items

def namesInEntries : List (String × Bson) → List String
  | [] => []
  | entry :: entries => namesInEntry entry ++ namesInEntries entries

def namesInEntry : String × Bson → List String
  | (name, value) => name :: namesIn value

end

/-- The names in a document, at any depth, that an operator would have. -/
def operators (d : Document) : List String := (namesIn (.document d)).filter isOperator

theorem namesIn_of_isScalar {v : Bson} (h : IsScalar v) : namesIn v = [] := by
  cases v <;> first | rfl | exact absurd h id

theorem namesInItems_of_isScalar {items : List Bson} (h : ∀ item ∈ items, IsScalar item) :
    namesInItems items = [] := by
  induction items with
  | nil => rfl
  | cons item items ih =>
      obtain ⟨hitem, hitems⟩ := List.forall_mem_cons.mp h
      rw [namesInItems, namesIn_of_isScalar hitem, ih hitems, List.append_nil]

theorem operators_cons (name : String) (value : Bson) (d : Document) :
    operators ((name, value) :: d) =
      ([name].filter isOperator ++ (namesIn value).filter isOperator) ++ operators d := by
  rw [operators, namesIn, namesInEntries, namesInEntry, List.filter_append, ← namesIn, ← operators,
    List.filter_cons, List.filter_cons]
  split <;> rfl

/-- Two documents joined under an operator. -/
theorem operators_joined (a b : Document) :
    operators [("$and", .array [.document a, .document b])] =
      "$and" :: (operators a ++ operators b) := by
  have hitems : (namesIn (.array [.document a, .document b])).filter isOperator =
      operators a ++ operators b := by
    rw [namesIn, namesInItems, namesInItems, namesInItems, List.append_nil, List.filter_append]
    rfl
  rw [operators_cons, hitems]
  exact List.append_nil _

/-- Plain entries, of scalars under names that are no operators. -/
def Plain (d : Document) : Prop := ∀ entry ∈ d, isOperator entry.1 = false ∧ IsScalar entry.2

theorem Plain.operators_eq {d : Document} (h : Plain d) : operators d = [] := by
  induction d with
  | nil => rfl
  | cons entry d ih =>
      obtain ⟨⟨hname, hvalue⟩, hrest⟩ := List.forall_mem_cons.mp h
      rw [operators_cons, ih hrest, namesIn_of_isScalar hvalue]
      simp [hname]

/-- Conditions that ask for membership in sets of scalars, under names that are no operators. -/
def Memberships (d : Document) : Prop :=
  ∀ entry ∈ d, isOperator entry.1 = false ∧
    ∃ values, entry.2 = .document [("$in", .array values)] ∧ ∀ value ∈ values, IsScalar value

theorem Memberships.operators_eq {d : Document} (h : Memberships d) :
    operators d = List.replicate d.length "$in" := by
  induction d with
  | nil => rfl
  | cons entry d ih =>
      obtain ⟨name, condition⟩ := entry
      obtain ⟨⟨hname, values, rfl, hvalues⟩, hrest⟩ := List.forall_mem_cons.mp h
      have hcondition : (namesIn (.document [("$in", .array values)])).filter isOperator =
          ["$in"] := by
        simp only [namesIn, namesInEntries, namesInEntry, namesInItems_of_isScalar hvalues]
        decide
      rw [operators_cons, ih hrest, hcondition]
      simp [hname, List.replicate_succ]

/-- A query whose operators are those that the encoding of a request writes. -/
structure Query.Guarded (r : Request) (q : Query) : Prop where
  filter : ∃ exact matched : Document, Memberships exact ∧ Plain matched ∧
    Fields.names exact = (Fields.names r.exact).map storedName ∧
    (∀ name, name ∈ Fields.names matched ↔ name ∈ (Fields.names r.matching).map storedName) ∧
    q.filter = if r.matching = [] then exact
      else [("$and", .array [.document exact, .document matched])]
  operators_filter : operators q.filter =
    (if r.matching = [] then [] else ["$and"]) ++ List.replicate r.exact.length "$in"
  projection : ∀ flags ∈ q.projection, Plain flags
  sort : ∀ flags ∈ q.sort, Plain flags

/-- A field that passes its check has the stored name of no operator. -/
theorem isOperator_storedName {part : Filter.Section} {field : String}
    (h : Filter.checkField part field = .ok ()) : isOperator (storedName field) = false := by
  unfold storedName
  split
  · decide
  · obtain ⟨start, first, rest, hfield, hstart, -⟩ := (Filter.checkField_iff.mp h).spelt
    have hne : start ≠ '$' := by
      rintro rfl
      rw [← Filter.isWordStart_iff] at hstart
      revert hstart
      decide
    simp [isOperator, hfield, hne]

theorem isScalar_literal {v : Json} (h : Filter.isLiteral v = true) : IsScalar (literal v) := by
  cases v with
  | null | array items | object members => cases h
  | number n => rcases numberLiteral_cases n with ⟨i, hn⟩ | ⟨x, hn⟩ <;> rw [literal, hn] <;> trivial
  | boolean b | string s => trivial

theorem memberships_exactPredicate {r : Request} (hvalid : r.check = .ok ())
    (hexact : (Fields.names r.exact).Nodup) : Memberships (exactPredicate r.plan) := by
  intro entry hentry
  rw [exactPredicate_plan hvalid hexact] at hentry
  obtain ⟨clause, hclause, rfl⟩ := List.mem_map.mp hentry
  obtain ⟨hfield, -, hliterals⟩ :=
    Filter.checkExact_eq_ok.mp ((Request.check_eq_ok.mp hvalid).1 clause hclause)
  refine ⟨isOperator_storedName hfield, _, rfl, ?_⟩
  intro value hvalue
  obtain ⟨v, hv, rfl⟩ := List.mem_map.mp hvalue
  exact isScalar_literal (hliterals v hv)

theorem plain_matchPredicate {r : Request} (hvalid : r.check = .ok ()) :
    Plain (matchPredicate r.plan) := by
  intro entry hentry
  rw [matchPredicate, r.matchClauses_plan] at hentry
  obtain ⟨clause, hclause, rfl⟩ := List.mem_map.mp (Fields.ofEntries_subset _ hentry)
  obtain ⟨hfield, hliteral⟩ :=
    Filter.checkMatch_eq_ok.mp ((Request.check_eq_ok.mp hvalid).2.1 clause hclause)
  exact ⟨isOperator_storedName hfield, isScalar_literal hliteral⟩

theorem plain_projection {r : Request} (hvalid : r.check = .ok ()) :
    ∀ flags ∈ projection? r.plan.projection, Plain flags := by
  intro flags hflags entry hentry
  have hfields : ∀ field ∈ r.plan.projection, Filter.checkField .fields field = .ok () :=
    fun field hfield =>
      (Request.check_eq_ok.mp hvalid).2.2.1 field (Filter.mem_covering_iff.mp hfield).1
  have hmem := mem_projection?_iff
    (fun field hfield => (Filter.checkField_eq_ok.mp (hfields field hfield)).1) hflags
  obtain ⟨name, flag⟩ := entry
  rcases (hmem name flag).mp hentry with ⟨rfl, field, hfield, rfl⟩ | ⟨rfl, rfl, -⟩
  · exact ⟨isOperator_storedName (hfields field hfield), trivial⟩
  · exact ⟨by decide, trivial⟩

theorem plain_sort {r : Request} (hvalid : r.check = .ok ()) :
    ∀ flags ∈ sort? r.plan, Plain flags := by
  intro flags hflags entry hentry
  unfold sort? at hflags
  split at hflags
  · cases hflags
  · obtain rfl := Option.some.inj hflags
    obtain ⟨key, hkey, rfl⟩ := List.mem_map.mp (Fields.ofEntries_subset _ hentry)
    have hfield := (Request.check_eq_ok.mp hvalid).2.2.2 key hkey
    refine ⟨isOperator_storedName hfield, ?_⟩
    cases key.direction <;> trivial

theorem predicate_plan (r : Request) : predicate r.plan =
    if r.matching = [] then exactPredicate r.plan
    else [("$and", .array [.document (exactPredicate r.plan),
      .document (matchPredicate r.plan)])] := by
  have hempty : (matchPredicate r.plan).isEmpty = true ↔ r.matching = [] := by
    rw [List.isEmpty_iff, matchPredicate, r.matchClauses_plan, Fields.ofEntries_eq_nil,
      List.map_eq_nil_iff]
  simp only [predicate, hempty]

/-- The query of a valid request is guarded. -/
theorem guarded_ofRequest {r : Request} (hvalid : r.check = .ok ())
    (hexact : (Fields.names r.exact).Nodup) : (Query.ofRequest r).Guarded r where
  filter := by
    refine ⟨exactPredicate r.plan, matchPredicate r.plan, memberships_exactPredicate hvalid hexact,
      plain_matchPredicate hvalid, ?_, fun name => ?_, predicate_plan r⟩
    · rw [exactPredicate_plan hvalid hexact, Fields.names, Fields.names, List.map_map, List.map_map]
      rfl
    · rw [matchPredicate, r.matchClauses_plan, Fields.mem_names_ofEntries, Fields.names,
        Fields.names, List.map_map, List.map_map]
      rfl
  operators_filter := by
    have hplain := (plain_matchPredicate hvalid).operators_eq
    have hmembers := (memberships_exactPredicate hvalid hexact).operators_eq
    have hlength : (exactPredicate r.plan).length = r.exact.length := by
      rw [exactPredicate_plan hvalid hexact, List.length_map]
    rw [hlength] at hmembers
    have hfilter : (Query.ofRequest r).filter = predicate r.plan := rfl
    rw [hfilter, predicate_plan]
    split
    · exact hmembers
    · rw [operators_joined, hmembers, hplain, List.append_nil]
      rfl
  projection := plain_projection hvalid
  sort := plain_sort hvalid

end Documents

/-! ### Clauses of a search -/

namespace Search

/-- A clause about one field: a scalar that it equals or matches, or scalars of which it equals
one. -/
inductive IsClause : Json → Prop
  | term (field : String) {value : Json} (h : value.isScalar = true) :
    IsClause (single "term" (single field value))
  | terms (field : String) {values : List Json} (h : ∀ value ∈ values, value.isScalar = true) :
    IsClause (single "terms" (single field (.array values)))
  | matching (field : String) {value : Json} (h : value.isScalar = true) :
    IsClause (single "match" (single field value))

/-- A body that requires one clause for each filter of a request, and matches all if there is
none. -/
def Body.Guarded (r : Request) (b : Body) : Prop :=
  ∃ must : List Json, (∀ clause ∈ must, IsClause clause) ∧
    must.length = r.exact.length + r.matching.length ∧
    b.query = if must = [] then single "match_all" (.object [])
      else single "bool" (single "must" (.array must))

theorem isScalar_of_isLiteral {v : Json} (h : Filter.isLiteral v = true) : v.isScalar = true :=
  (Bool.and_eq_true_iff.mp h).1

theorem isClause_exactClause {clause : String × List Json}
    (h : ∀ v ∈ clause.2, Filter.isLiteral v = true) : IsClause (exactClause clause) := by
  have hscalar : ∀ v ∈ clause.2, v.isScalar = true := fun v hv => isScalar_of_isLiteral (h v hv)
  obtain ⟨field, values⟩ := clause
  match values with
  | [] => exact .terms field hscalar
  | [value] => exact .term field (hscalar value List.mem_cons_self)
  | first :: second :: rest => exact .terms field hscalar

/-- The body of a valid request is guarded. -/
theorem guarded_ofRequest {r : Request} (hvalid : r.check = .ok ()) :
    (Body.ofRequest r).Guarded r := by
  refine ⟨clauses r.plan, ?_, ?_, ?_⟩
  · rw [clauses, r.exactClauses_plan, r.matchClauses_plan]
    intro clause hclause
    rcases List.mem_append.mp hclause with hexact | hmatch
    · obtain ⟨entry, hentry, rfl⟩ := List.mem_map.mp hexact
      exact isClause_exactClause (Request.isLiteral_exact hvalid entry hentry)
    · obtain ⟨entry, hentry, rfl⟩ := List.mem_map.mp hmatch
      have hliteral := Request.isLiteral_matching hvalid entry hentry
      exact .matching entry.1 (isScalar_of_isLiteral hliteral)
  · rw [clauses, r.exactClauses_plan, r.matchClauses_plan, List.length_append, List.length_map,
      List.length_map]
  · rw [Body.ofRequest, query_ofPlan, condition]
    simp only [List.isEmpty_iff]

end Search

namespace Filter.Request

/-- The check of a request accepts what may be asked and nothing else, and the queries of both
backends are guarded then. No field has two exact filters, as in every request that is read or
built. -/
theorem check_guards_queries {r : Request} (hexact : (Fields.names r.exact).Nodup) :
    (r.check = .ok () ↔ r.Askable) ∧
      (r.check = .ok () →
        (Documents.Query.ofRequest r).Guarded r ∧ (Search.Body.ofRequest r).Guarded r) :=
  ⟨check_iff, fun hvalid =>
    ⟨Documents.guarded_ofRequest hvalid hexact, Search.guarded_ofRequest hvalid⟩⟩

/-- Text that looks like an operator stays a text. -/
theorem check_guards_queries_text :
    let r : Request :=
      { exact := [("status", [.string "NEW", .string "$ne"]), ("id", [.ofNat 1])]
        matching := [("lineItems.name", .string "$where")]
        fields := ["city", "id"]
        sort := [⟨"total", .descending⟩] }
    (Fields.names r.exact).Nodup ∧ r.check = .ok () ∧ r.Askable ∧
      Documents.operators (Documents.Query.ofRequest r).filter = ["$and", "$in", "$in"] := by
  intro r
  have hexact : (Fields.names r.exact).Nodup := by decide
  have hvalid : r.check = .ok () := rfl
  obtain ⟨hiff, hguards⟩ := check_guards_queries hexact
  exact ⟨hexact, hvalid, hiff.mp hvalid, (hguards hvalid).1.operators_filter⟩

end Filter.Request

end OrderDesk
