import OrderDesk.Cluster.Exchange
import OrderDesk.Order.Written
import OrderDesk.Search.Body
import OrderDesk.Search.Mapping

/-!
# Orders in a search cluster

An order lies under its identity in the index. A reply that blames the request is a refusal,
unless it only asks for patience; all other replies that are no success may be different another
time.
-/

namespace OrderDesk.Cluster

/-! ### Replies -/

/-- The kind of error that a body names. -/
def errorKind? (body : Json) : Option String :=
  (body.follow? ["error", "type"]).bind Json.asString?

/-- What a body says of an error. -/
def errorReason? (body : Json) : Option String :=
  ((body.follow? ["error", "reason"]).bind Json.asString?).or
    ((body.get? "error").bind Json.asString?)

def errorText (status : Nat) (body : Json) : String :=
  "Search index returned " ++ Http.statusText status ++
    match errorKind? body, errorReason? body with
    | some kind, some reason => ": " ++ kind ++ ": " ++ reason
    | _, some reason => ": " ++ reason
    | _, none => ""

/-- A status that only asks for patience: the request took too long, or there were too many. -/
def asksForPatience (status : Nat) : Bool := status = 408 || status = 429

def isRefusal (status : Nat) : Bool := Http.isClientError status && !asksForPatience status

/-- The setback that a reply stands for. -/
def setback (status : Nat) (body : Json) : Setback :=
  if isRefusal status then .refused .index (errorText status body)
  else .broken (errorText status body)

/-- The JSON of a reply. -/
def Reply.json? (r : Reply) : Option Json :=
  if Http.hasNoBody r.status then none else Json.parse? r.body

/-- The body of a reply that reports success. -/
def Reply.success (r : Reply) : Except Setback Json :=
  match r.json? with
  | none =>
    .error (.broken ("Search index returned an unreadable body (" ++ Http.statusText r.status ++
      "): error decoding response body"))
  | some body => if Http.isSuccess r.status then .ok body else .error (setback r.status body)

/-! ### Calls -/

/-- What a reply comes to. -/
def settled {α : Type} (result : Except Setback α) : Exchange α := ExceptT.mk (.done result)

/-- Where an order lies. -/
def documentPath (id : String) : List String := ["_doc", id]

def put (c : Cluster) (o : Order) : Exchange Unit := do
  let reply ← c.send
    { method := "PUT", segments := documentPath o.id, saysRefresh := true, body := some o.toJson }
  settled (reply.success.map fun _ => ())

def search (c : Cluster) (b : Search.Body) : Exchange Json := do
  let reply ← c.send { method := "POST", segments := ["_search"], body := some b.toJson }
  settled reply.success

/-- Deletes an order; whether there was one. -/
def delete (c : Cluster) (id : String) : Exchange Bool := do
  let reply ← c.send { method := "DELETE", segments := documentPath id, saysRefresh := true }
  if reply.status = 404 then return false
  settled (reply.success.map fun _ => true)

/-- What became of making the index. Another one may make it at the same time. -/
def made (reply : Reply) : Except Setback Unit :=
  let body := reply.json?.getD .null
  if Http.isSuccess reply.status ||
      errorKind? body = some "resource_already_exists_exception" then .ok ()
  else .error (setback reply.status body)

/-- Makes the index with the mapping of orders, unless it is there. -/
def ensureIndex (c : Cluster) : Exchange Unit := do
  let head ← c.send { method := "HEAD" }
  if head.status = 200 then return
  if head.status ≠ 404 then
    throw (.broken ("Unexpected status " ++ Http.statusText head.status ++ " checking index " ++
      c.index))
  let reply ← c.send { method := "PUT", body := some Search.orderMapping }
  settled (made reply)

end OrderDesk.Cluster
