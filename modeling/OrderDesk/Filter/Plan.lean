import OrderDesk.FieldPath
import OrderDesk.Filter.Request

/-!
# Filter plans

A request in the form from which queries are made: a flat list of clauses, the paths to keep and
the sort keys. A path is not kept twice, nor below another one that is kept.
-/

namespace OrderDesk.Filter

/-- A condition on one field. -/
inductive Clause where
  | equalsOneOf (field : String) (values : List Json)
  /-- How loosely a value matches is up to the backend. -/
  | matching (field : String) (value : Json)

structure Plan where
  /-- The exact clauses, then those that match. -/
  clauses : List Clause := []
  projection : List String := []
  sort : List SortKey := []

/-- The names that no other leads above, each once and in order. -/
def covering (fields : List String) : List String :=
  (fields.filter fun field => !fields.any (FieldPath.isBelow field)).eraseDups

def Request.plan (r : Request) : Plan where
  clauses :=
    r.exact.map (fun entry => .equalsOneOf entry.1 entry.2) ++
      r.matching.map (fun entry => .matching entry.1 entry.2)
  projection := covering r.fields
  sort := r.sort

namespace Plan

def exactClauses (p : Plan) : List (String × List Json) :=
  p.clauses.filterMap fun
    | .equalsOneOf field values => some (field, values)
    | .matching _ _ => none

def matchClauses (p : Plan) : List (String × Json) :=
  p.clauses.filterMap fun
    | .matching field value => some (field, value)
    | .equalsOneOf _ _ => none

/-- Whether a plan selects every record. -/
def selectsAll (p : Plan) : Bool := p.clauses.isEmpty

end Plan

end OrderDesk.Filter
