import OrderDesk.Filter.Plan
import OrderDesk.Json.Basic

/-!
# Search bodies

A plan as the query of a search index. Every clause is required: a single value is a `term`,
several are `terms`, and a value to match is a `match`. A plan without clauses matches all. The
body asks for a whole window of hits and for the exact number of them, so that a short answer can
be told from a complete one.
-/

namespace OrderDesk.Search

/-- The number of hits asked for unless another one is set. -/
def windowSize : Nat := 10000

/-- An object with one member. -/
def single (name : String) (value : Json) : Json := .object [(name, value)]

def exactClause : String × List Json → Json
  | (field, [value]) => single "term" (single field value)
  | (field, values) => single "terms" (single field (.array values))

def matchClause : String × Json → Json
  | (field, value) => single "match" (single field value)

/-- All clauses of a plan, the exact ones first. -/
def clauses (p : Filter.Plan) : List Json :=
  p.exactClauses.map exactClause ++ p.matchClauses.map matchClause

def condition (p : Filter.Plan) : Json :=
  if (clauses p).isEmpty then single "match_all" (.object [])
  else single "bool" (single "must" (.array (clauses p)))

def sortEntry (key : Filter.SortKey) : Json :=
  single key.field (single "order" (.string key.direction.keyword))

/-- The body of a search. -/
structure Body where
  members : Fields Json

namespace Body

def toJson (b : Body) : Json := .object b.members

def ofPlan (p : Filter.Plan) : Body where
  members :=
    [("query", condition p)] ++
    (if p.projection.isEmpty then [] else [("_source", .array (p.projection.map .string))]) ++
    (if p.sort.isEmpty then [] else [("sort", .array (p.sort.map sortEntry))]) ++
    [("size", .ofNat windowSize), ("track_total_hits", .boolean true)]

def ofRequest (r : Filter.Request) : Body := ofPlan r.plan

/-- Every record, whole and in the order of the index. -/
def all : Body := ofPlan {}

/-- Asks for at most `size` hits. -/
def withSize (b : Body) (size : Nat) : Body where
  members := Fields.set b.members "size" (.ofNat size)

end Body

end OrderDesk.Search
