import OrderDesk.Documents.Literal
import OrderDesk.Filter.Plan

/-!
# Queries of the document store

Every exact clause asks for membership in the set of its values, also if there is just one.
Clauses that match ask for equality; they form a second predicate, joined to the first one by
`$and`, which may then be empty. A projection names what to keep, and keeps the identity only if
that is named too.
-/

namespace OrderDesk.Documents

structure Query where
  filter : Document := []
  projection : Option Document := none
  sort : Option Document := none

/-- Every document, whole and in the order of the store. -/
def Query.all : Query := {}

/-- The condition that a field equals one of some values. -/
def membership (values : List Json) : Bson :=
  .document [("$in", .array (values.map literal))]

def exactPredicate (p : Filter.Plan) : Document :=
  Fields.ofEntries (p.exactClauses.map fun clause => (storedName clause.1, membership clause.2))

def matchPredicate (p : Filter.Plan) : Document :=
  Fields.ofEntries (p.matchClauses.map fun clause => (storedName clause.1, literal clause.2))

def predicate (p : Filter.Plan) : Document :=
  let matched := matchPredicate p
  if matched.isEmpty then exactPredicate p
  else [("$and", .array [.document (exactPredicate p), .document matched])]

def projection? (fields : List String) : Option Document :=
  if fields.isEmpty then none
  else
    let kept : Document := Fields.ofEntries (fields.map fun f => (storedName f, .int32 1))
    some (if Fields.has kept storedId then kept else kept ++ [(storedId, .int32 0)])

/-- The direction as the store writes it. -/
def directionFlag : Filter.Direction → Bson
  | .ascending => .int32 1
  | .descending => .int32 (-1)

def sort? (p : Filter.Plan) : Option Document :=
  if p.sort.isEmpty then none
  else
    some (Fields.ofEntries (p.sort.map fun key =>
      (storedName key.field, directionFlag key.direction)))

/-- The query that a plan stands for. -/
def Query.ofPlan (p : Filter.Plan) : Query where
  filter := predicate p
  projection := projection? p.projection
  sort := sort? p

def Query.ofRequest (r : Filter.Request) : Query := .ofPlan r.plan

end OrderDesk.Documents
