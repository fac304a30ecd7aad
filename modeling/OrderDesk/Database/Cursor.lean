import OrderDesk.Database.Session
import OrderDesk.FieldPath

/-!
# Cursors

A server answers a query in batches. Each tells where to ask for the next one, until there is
none.
-/

namespace OrderDesk.Database

/-- A batch of documents, and the number of the cursor that has more; zero if none has. -/
structure Batch where
  cursor : Int64
  documents : List Document

/-- The batch under a name in a reply. -/
def batch? (name : String) (reply : Document) : Option Batch := do
  let cursor ← (Fields.get? reply "cursor").bind Bson.asDocument?
  let id ← (Fields.get? cursor "id").bind whole?
  let items ← (Fields.get? cursor name).bind Bson.asArray?
  return { cursor := .ofInt id, documents := ← items.mapM Bson.asDocument? }

/-- Where a cursor lives: its database and its collection. -/
structure Home where
  database : String
  collection : String

/-- The home that a reply names, with a point after the database. -/
def home? (reply : Document) : Option Home := do
  let cursor ← (Fields.get? reply "cursor").bind Bson.asDocument?
  let name ← (Fields.get? cursor "ns").bind Bson.asString?
  match FieldPath.split '.' name.toList with
  | database :: rest =>
    let collection := ".".intercalate (rest.map String.ofList)
    if database.isEmpty || collection = "" then none
    else some { database := String.ofList database, collection }
  | [] => none

def moreCommand (home : Home) (cursor : Int64) : Command where
  database := home.database
  entries := [("getMore", .int64 cursor), ("collection", .string home.collection)]

/-- The next batch in a delivery. -/
def nextBatch (message : String) (d : Delivery) : Except Setback Batch := do
  match batch? "nextBatch" (← accepted message d) with
  | some b => return b
  | none => throw (.broken message)

/-- The documents of the batches after a cursor, until `isEnough` holds of what is there. -/
def rest (message : String) (home : Home) (isEnough : List Document → Bool) :
    List Delivery → List Command → Int64 → List Document →
      Except Setback (List Document) × Session
  | deliveries, sent, cursor, found =>
    if cursor = 0 || isEnough found then (.ok found, { deliveries, sent })
    else
      let sent := sent ++ [moreCommand home cursor]
      match deliveries with
      | [] => (.error (.broken message), { deliveries := [], sent })
      | d :: deliveries =>
        match nextBatch message d with
        | .error setback => (.error setback, { deliveries, sent })
        | .ok b => rest message home isEnough deliveries sent b.cursor (found ++ b.documents)

/-- All batches of a cursor after the first one. -/
def drain (message : String) (home : Home) (isEnough : List Document → Bool) (first : Batch) :
    Exchange (List Document) :=
  ExceptT.mk fun s =>
    rest message home isEnough s.deliveries s.sent first.cursor first.documents

end OrderDesk.Database
