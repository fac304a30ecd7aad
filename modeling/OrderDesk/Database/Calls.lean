import OrderDesk.Database.Cursor
import OrderDesk.Documents.Query
import OrderDesk.Documents.Record

/-!
# Orders in a database

The calls on a collection of orders. The server has the last word on duplicates and on what a
query means; a reply that it turns a command down is a refusal, and everything else that goes
wrong may go well another time.
-/

namespace OrderDesk.Database

/-- A collection in a database. -/
structure Place where
  database : String
  collection : String

namespace Place

def command (p : Place) (name : String) (entries : Document) : Command where
  database := p.database
  entries := (name, .string p.collection) :: entries

def settled {α : Type} (result : Except Setback α) : Exchange α := ExceptT.mk (pure result)

def insert (p : Place) (o : Order) : Exchange Unit := do
  match Documents.ofOrder o with
  | .error fault => throw (.broken fault.message)
  | .ok d =>
    let delivery ← send (p.command "insert" [("documents", .array [.document d])])
    let _ ← settled (written ("Failed to insert order " ++ o.id) delivery)

/-- The first batch of a query, and where to ask for more. -/
def firstBatch (p : Place) (message : String) (entries : Document) : Exchange (Home × Batch) := do
  let reply ← settled (accepted message (← send (p.command "find" entries)))
  match home? reply, batch? "firstBatch" reply with
  | some home, some b => return (home, b)
  | _, _ => throw (.broken message)

def optional (name : String) : Option Document → Document
  | some d => [(name, .document d)]
  | none => []

def find (p : Place) (q : Documents.Query) : Exchange (List Document) := do
  let (home, first) ← p.firstBatch "Failed to query orders"
    ([("filter", .document q.filter)] ++ optional "projection" q.projection ++
      optional "sort" q.sort)
  drain "Failed to read order cursor" home (fun _ => false) first

/-- The condition that a document has an identity. -/
def identified (id : String) : Document := [(Documents.storedId, .string id)]

def findById (p : Place) (id : String) : Exchange (Option Document) := do
  let message := "Failed to get order " ++ id
  let (home, first) ← p.firstBatch message
    [("filter", .document (identified id)), ("limit", .int64 1)]
  return (← drain message home (fun found => !found.isEmpty) first).head?

/-- Deletes an order; whether there was one. -/
def delete (p : Place) (id : String) : Exchange Bool := do
  let one : Document := [("q", .document (identified id)), ("limit", .int32 1)]
  let delivery ← send (p.command "delete" [("deletes", .array [.document one])])
  return 0 < (← settled (written ("Failed to delete order " ++ id) delivery))

/-- The fields that are often filtered on, with the direction of their index. -/
def indexedFields : List (String × Int32) :=
  [("status", 1), ("userId", 1), ("city", 1), ("createdAt", -1)]

def indexEntry (field : String × Int32) : Bson :=
  .document [("key", .document [(field.1, .int32 field.2)]),
    ("name", .string (field.1 ++ "_" ++ toString field.2.toInt))]

/-- Makes the indexes; those that are there stay as they are. A failure is never final. -/
def ensureIndexes (p : Place) : Exchange Unit := do
  let failed : Setback := .broken ("Failed to create indexes on " ++ p.collection ++ " collection")
  match ← send (p.command "createIndexes" [("indexes", .array (indexedFields.map indexEntry))]) with
  | .severed => throw failed
  | .reply d => if succeeded d && !reportsWriteTrouble d then return () else throw failed

end Place

end OrderDesk.Database
