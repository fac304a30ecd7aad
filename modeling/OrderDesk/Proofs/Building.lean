import Mathlib.Data.List.Induction
import Mathlib.Tactic.Common
import OrderDesk.Filter.Validity
import OrderDesk.Proofs.Repetitions
import OrderDesk.Proofs.Requests

/-! # Requests that are built step by step

A builder starts from the empty request and adds to it step by step. What it builds is told by the
steps alone, each section by the steps of its own kind: values add up, a value to match is replaced
where it stands, a field is kept once, and a sort key moves to the end when it is given again.

The laws follow the steps from the last one back, which is how the sections grow.
-/

namespace OrderDesk.Filter

/-! ### Steps -/

/-- What a builder adds to a request in one step. -/
inductive Request.Step where
  | requireOneOf (field : String) (values : List Json)
  | requireMatch (field : String) (value : Json)
  | project (fields : List String)
  | sortBy (key : SortKey)

namespace Request.Step

/-- The section that a step adds to. -/
def part : Step → Section
  | requireOneOf _ _ => .exact
  | requireMatch _ _ => .matching
  | project _ => .fields
  | sortBy _ => .sort

def take : Step → Request → Request
  | requireOneOf field values, r => r.requireOneOf field values
  | requireMatch field value, r => r.requireMatch field value
  | project fields, r => r.project fields
  | sortBy key, r => r.sortBy key

end Request.Step

open Request (Step addValues)

/-- The request that steps build, the first one first. -/
def Request.built (steps : List Step) : Request := steps.foldl (fun r step => step.take r) empty

theorem Request.built_concat (steps : List Step) (step : Step) :
    built (steps ++ [step]) = step.take (built steps) := by
  rw [built, List.foldl_append, List.foldl_cons, List.foldl_nil, built]

/-! ### What the steps tell -/

/-- The values given to fields, in the order in which they were given. -/
def valuesTold (steps : List Step) : Fields (List Json) :=
  steps.filterMap fun
    | .requireOneOf field values => some (field, values)
    | _ => none

/-- The values given to one field, one after the other. -/
def valuesFor (field : String) (given : Fields (List Json)) : List Json :=
  (given.filter (·.1 = field)).flatMap (·.2)

def matchesTold (steps : List Step) : Fields Json :=
  steps.filterMap fun
    | .requireMatch field value => some (field, value)
    | _ => none

def fieldsTold (steps : List Step) : List String :=
  steps.flatMap fun
    | .project fields => fields
    | _ => []

def keysTold (steps : List Step) : List SortKey :=
  steps.filterMap fun
    | .sortBy key => some key
    | _ => none

/-- The keys that no later one on the same field replaces. -/
def lastKeys : List SortKey → List SortKey
  | [] => []
  | key :: keys =>
    if key.field ∈ keys.map (·.field) then lastKeys keys else key :: lastKeys keys

/-- A request of which each section is told by what was given for it, in the order of arrival. -/
structure Request.Told (values : Fields (List Json)) (matched : Fields Json) (fields : List String)
    (keys : List SortKey) (r : Request) : Prop where
  exact_names : Fields.names r.exact = (Fields.names values).eraseDups
  exact_values : ∀ field ∈ Fields.names values,
    Fields.get? r.exact field = some ((valuesFor field values).eraseDupsBy Json.same)
  match_names : Fields.names r.matching = (Fields.names matched).eraseDups
  match_values : ∀ field, Fields.get? r.matching field = Fields.get? matched.reverse field
  fields : r.fields = fields.eraseDups
  sort : r.sort = lastKeys keys

/-! ### Values of one field -/

theorem valuesFor_eq_nil {field : String} {given : Fields (List Json)}
    (h : field ∉ Fields.names given) : valuesFor field given = [] := by
  have hnone : given.filter (·.1 = field) = [] := by
    rw [List.filter_eq_nil_iff]
    intro entry hentry heq
    exact h (List.mem_map.mpr ⟨entry, hentry, of_decide_eq_true heq⟩)
  rw [valuesFor, hnone, List.flatMap_nil]

theorem valuesFor_concat (field name : String) (values : List Json) (given : Fields (List Json)) :
    valuesFor field (given ++ [(name, values)]) =
      valuesFor field given ++ if name = field then values else [] := by
  rw [valuesFor, valuesFor, List.filter_append, List.flatMap_append]
  by_cases h : name = field <;> simp [h]

/-! ### Last keys -/

theorem lastKeys_concat (keys : List SortKey) (key : SortKey) :
    lastKeys (keys ++ [key]) = (lastKeys keys).filter (·.field ≠ key.field) ++ [key] := by
  induction keys with
  | nil => simp [lastKeys]
  | cons first keys ih =>
      rw [List.cons_append, lastKeys, lastKeys, ih]
      by_cases hagain : first.field ∈ keys.map (·.field)
      · rw [if_pos hagain, if_pos (by simp_all)]
      · rw [if_neg hagain]
        -- The first key was a last one so far, and the new key is the only one to replace it.
        by_cases hlast : first.field = key.field
        · rw [if_pos (by simp [hlast]), List.filter_cons_of_neg (by simp [hlast])]
        · rw [if_neg (by simp_all), List.filter_cons_of_pos (by simp [hlast]), List.cons_append]

/-! ### Sections of their own -/

namespace Request

namespace Step

/-- A step leaves the other sections alone. -/
theorem agree_take_of_ne {part : Section} {step : Step} (h : step.part ≠ part) (r : Request) :
    Agree part (step.take r) r := by
  cases part <;> cases step <;> first | rfl | exact absurd rfl h

/-- What a step makes of its section depends on that section only. -/
theorem agree_take (step : Step) {r s : Request} (h : Agree step.part r s) :
    Agree step.part (step.take r) (step.take s) := by
  cases step with
  | requireOneOf field values =>
      exact congrArg (fun fs : Fields (List Json) =>
        Fields.set fs field (addValues ((Fields.get? fs field).getD []) values)) h
  | requireMatch field value => exact congrArg (Fields.set · field value) h
  | project fields =>
      exact congrArg (fields.foldl fun kept f => if f ∈ kept then kept else kept ++ [f]) h
  | sortBy key =>
      exact congrArg (fun keys : List SortKey => keys.filter (·.field ≠ key.field) ++ [key]) h

/-- Steps on different sections may change places. -/
theorem take_comm {a b : Step} (h : a.part ≠ b.part) (r : Request) :
    b.take (a.take r) = a.take (b.take r) := by
  cases a <;> cases b <;> first | rfl | exact absurd rfl h

end Step

/-- A section is what the steps on it make of the empty one. -/
theorem agree_built_filter (part : Section) (steps : List Step) :
    Agree part (built steps) (built (steps.filter (·.part = part))) := by
  induction steps using List.reverseRecOn with
  | nil => cases part <;> rfl
  | append_singleton steps step ih =>
      rw [built_concat, List.filter_append]
      by_cases h : step.part = part
      · subst h
        rw [List.filter_cons_of_pos (by simp), List.filter_nil, built_concat]
        exact step.agree_take ih
      · rw [List.filter_cons_of_neg (by simp [h]), List.filter_nil, List.append_nil]
        exact (Step.agree_take_of_ne h _).trans ih

/-- How steps on different sections follow each other makes no difference. -/
theorem built_congr {steps others : List Step}
    (h : ∀ part, steps.filter (·.part = part) = others.filter (·.part = part)) :
    built steps = built others := by
  refine eq_of_agree fun part => ?_
  have hsteps := agree_built_filter part steps
  rw [h part] at hsteps
  exact hsteps.trans (agree_built_filter part others).symm

end Request

/-! ### Sections that are told -/

/-- Fields that are written to one after the other stand in the order in which they were first. -/
theorem names_set_eraseDups {α β : Type} {fs : Fields α} {given : Fields β}
    (h : Fields.names fs = (Fields.names given).eraseDups) (name : String) (value : α)
    (what : β) : Fields.names (Fields.set fs name value) =
      (Fields.names (given ++ [(name, what)])).eraseDups := by
  have hnames : Fields.names (given ++ [(name, what)]) = Fields.names given ++ [name] :=
    List.map_append
  rw [hnames, eraseDups_concat, Fields.names_set, h]
  simp only [List.mem_eraseDups]

namespace Request.Told

variable {values : Fields (List Json)} {matched : Fields Json} {fields : List String}
  {keys : List SortKey} {r : Request}

theorem empty : Told [] [] [] [] empty where
  exact_names := rfl
  exact_values _ hfield := absurd hfield List.not_mem_nil
  match_names := rfl
  match_values _ := rfl
  fields := rfl
  sort := rfl

/-- The values of any field, of which there are none if it was never given one. -/
theorem getD_exact (h : Told values matched fields keys r) (field : String) :
    (Fields.get? r.exact field).getD [] = (valuesFor field values).eraseDupsBy Json.same := by
  by_cases hgiven : field ∈ Fields.names values
  · rw [h.exact_values field hgiven, Option.getD_some]
  · have hnone : Fields.get? r.exact field = none := by
      rw [Fields.get?_eq_none, h.exact_names, List.mem_eraseDups]
      exact hgiven
    rw [hnone, valuesFor_eq_nil hgiven]
    rfl

theorem requireOneOf (h : Told values matched fields keys r) (name : String) (more : List Json) :
    Told (values ++ [(name, more)]) matched fields keys (r.requireOneOf name more) where
  exact_names := names_set_eraseDups h.exact_names name _ more
  exact_values field hfield := by
    rw [valuesFor_concat, Request.requireOneOf]
    by_cases heq : name = field
    · subst heq
      rw [Fields.get?_set_self, h.getD_exact, if_pos rfl]
      exact congrArg some (foldl_eraseDupsBy Json.same _ more)
    · have hbefore : field ∈ Fields.names values := by
        obtain ⟨entry, hentry, rfl⟩ := List.mem_map.mp hfield
        rcases List.mem_append.mp hentry with hentry | hnew
        · exact List.mem_map_of_mem hentry
        · exact absurd (List.mem_singleton.mp hnew ▸ rfl) heq
      rw [Fields.get?_set_of_ne _ _ heq, if_neg heq, List.append_nil, h.exact_values field hbefore]
  match_names := h.match_names
  match_values := h.match_values
  fields := h.fields
  sort := h.sort

theorem requireMatch (h : Told values matched fields keys r) (name : String) (value : Json) :
    Told values (matched ++ [(name, value)]) fields keys (r.requireMatch name value) where
  exact_names := h.exact_names
  exact_values := h.exact_values
  match_names := names_set_eraseDups h.match_names name value value
  match_values field := by
    rw [List.reverse_append, List.reverse_singleton, List.singleton_append, Fields.get?_cons,
      Request.requireMatch]
    split
    · next heq =>
      subst heq
      rw [Fields.get?_set_self]
    · next hne => rw [Fields.get?_set_of_ne _ _ hne, h.match_values]
  fields := h.fields
  sort := h.sort

theorem project (h : Told values matched fields keys r) (more : List String) :
    Told values matched (fields ++ more) keys (r.project more) where
  exact_names := h.exact_names
  exact_values := h.exact_values
  match_names := h.match_names
  match_values := h.match_values
  fields := by
    rw [Request.project, h.fields, List.eraseDups, List.eraseDups, ← foldl_eraseDupsBy]
    simp only [List.any_beq, List.contains_iff_mem]
  sort := h.sort

theorem sortBy (h : Told values matched fields keys r) (key : SortKey) :
    Told values matched fields (keys ++ [key]) (r.sortBy key) where
  exact_names := h.exact_names
  exact_values := h.exact_values
  match_names := h.match_names
  match_values := h.match_values
  fields := h.fields
  sort := by rw [Request.sortBy, h.sort, lastKeys_concat]

end Request.Told

/-- One step tells one section something more. -/
theorem Request.Told.take {values : Fields (List Json)} {matched : Fields Json}
    {fields : List String} {keys : List SortKey} {r : Request}
    (h : Told values matched fields keys r) (step : Step) :
    Told (values ++ valuesTold [step]) (matched ++ matchesTold [step])
      (fields ++ fieldsTold [step]) (keys ++ keysTold [step]) (step.take r) := by
  unfold valuesTold matchesTold fieldsTold keysTold Step.take
  cases step with
  | requireOneOf field values => simpa using h.requireOneOf field values
  | requireMatch field value => simpa using h.requireMatch field value
  | project fields => simpa using h.project fields
  | sortBy key => simpa using h.sortBy key

/-- Whatever the steps, each section is told by those on it. -/
theorem Request.told_built (steps : List Step) :
    Told (valuesTold steps) (matchesTold steps) (fieldsTold steps) (keysTold steps)
      (built steps) := by
  induction steps using List.reverseRecOn with
  | nil => exact .empty
  | append_singleton steps step ih =>
      have htaken := ih.take step
      rwa [valuesTold, valuesTold, ← List.filterMap_append, matchesTold, matchesTold,
        ← List.filterMap_append, fieldsTold, fieldsTold, ← List.flatMap_append, keysTold,
        keysTold, ← List.filterMap_append, ← built_concat] at htaken

theorem Request.wellFormed_built (steps : List Step) : (built steps).WellFormed := by
  induction steps using List.reverseRecOn with
  | nil => exact .empty
  | append_singleton steps step ih =>
      rw [built_concat]
      cases step with
      | requireOneOf field values => exact ih.requireOneOf field values
      | requireMatch field value => exact ih.requireMatch field value
      | project fields => exact ih.project fields
      | sortBy key => exact ih.sortBy key

end OrderDesk.Filter

namespace OrderDesk

open Filter (Request SortKey)
open Filter.Request (Step Told built)

/-- No section of a request that is built step by step names a field twice, each section is what the
steps on it tell, steps on different sections may change places wherever they meet, and so only the
order of the steps on each section matters. -/
theorem built_as_told (steps : List Step) :
    (built steps).WellFormed ∧
      Told (Filter.valuesTold steps) (Filter.matchesTold steps) (Filter.fieldsTold steps)
        (Filter.keysTold steps) (built steps) ∧
      (∀ (r : Request) (a b : Step), a.part ≠ b.part → b.take (a.take r) = a.take (b.take r)) ∧
      ∀ others : List Step,
        (∀ part, steps.filter (·.part = part) = others.filter (·.part = part)) →
          built others = built steps :=
  ⟨Request.wellFormed_built steps, Request.told_built steps,
    fun r _ _ h => Step.take_comm h r, fun _ h => (Request.built_congr h).symm⟩

/-- Steps of all kinds, each on a field that an earlier one was on, and the same steps sorted by
section. -/
theorem built_as_told_repeated :
    let steps : List Step :=
      [.requireOneOf "status" [.string "paid", .string "open"], .sortBy ⟨"total", .ascending⟩,
        .requireMatch "city" (.string "Ulm"), .requireOneOf "total" [],
        .project ["total", "status", "total"], .sortBy ⟨"status", .ascending⟩,
        .requireMatch "name" (.string "Jo"), .requireOneOf "status" [.string "open", .null],
        .requireMatch "city" (.string "Bonn"), .sortBy ⟨"total", .descending⟩,
        .project ["status", "city"]]
    let others : List Step :=
      steps.filter (·.part = .sort) ++ steps.filter (·.part = .fields) ++
        steps.filter (·.part = .matching) ++ steps.filter (·.part = .exact)
    (∀ part, steps.filter (·.part = part) = others.filter (·.part = part)) ∧
      built others = built steps ∧
      (built steps).exact =
        [("status", [.string "paid", .string "open", .null]), ("total", [])] ∧
      (built steps).matching = [("city", .string "Bonn"), ("name", .string "Jo")] ∧
      (built steps).fields = ["total", "status", "city"] ∧
      (built steps).sort = [⟨"status", .ascending⟩, ⟨"total", .descending⟩] := by
  intro steps others
  have hsame : ∀ part, steps.filter (·.part = part) = others.filter (·.part = part) := by
    intro part
    cases part <;> rfl
  obtain ⟨-, htold, -, hordered⟩ := built_as_told steps
  refine ⟨hsame, hordered others hsame, ?_, ?_, ?_, ?_⟩
  · simp [steps, built, Step.take, Request.empty, Request.requireOneOf, Request.requireMatch,
      Request.project, Request.sortBy, Filter.Request.addValues, Fields.set, Fields.get?_cons,
      Json.isIn, Json.same]
  · rfl
  · rw [htold.fields]
    decide
  · rw [htold.sort]
    decide

end OrderDesk
