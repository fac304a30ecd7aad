import OrderDesk.Documents.Record
import OrderDesk.Filter.Validity
import OrderDesk.Order.Total
import OrderDesk.Search.Hits
import OrderDesk.Service.Call

/-!
# The order service

Orders are created, listed, filtered and deleted across both backends. Writes go to the store
first and to the index second. If only the second half fails, the caller is told so, and
reconciling the order brings the index in line with the store again.
-/

namespace OrderDesk.Service

/-- Every stored order, in the order of the store. -/
def list : Work (List Order) := do
  let documents ← request "list" (.find .all)
  settled (Documents.orders documents)

/-- The orders that one of the backends selects. An invalid request reaches neither. -/
def filter (backend : Backend) (r : Filter.Request) : Work (List Order) := do
  match r.check with
  | .error cause => throw (.badRequest cause.message)
  | .ok () =>
    match backend with
    | .store =>
      let documents ← request "filter" (.find (.ofRequest r))
      settled (Documents.orders documents)
    | .index =>
      let response ← request "filter" (.search (.ofRequest r))
      settled (Search.orders response)

/-- The half of a write that concerns the index, after the store was written. -/
def secondHalf {α : Type} (operation : Operation) (id : String) (w : Work α) : Work α :=
  tryCatch w fun _ => throw (.halfDone id operation .store .index)

/-- Stores a new order with a given identity and time, then indexes it. -/
def create (input : OrderInput) (id : String) (now : Calendar.Instant) : Work Order := do
  match Order.make input id now with
  | .error fault => throw (.badRequest fault.message)
  | .ok order =>
    request "insert" (.insert order)
    secondHalf .create order.id (request "index" (.put order))
    return order

/-- Deletes an order from the store, then from the index. The index is left alone if the store
does not know the order, and need not know it itself. -/
def delete (id : String) : Work Unit := do
  if ← request "delete" (.remove id) then
    discard (secondHalf .delete id (request "delete" (.discard id)))
  else
    throw (.notFound id)

/-- What reconciling an order did to the index. -/
inductive Reconciled where
  /-- The stored order was indexed. -/
  | reindexed
  /-- The order is not stored, and no longer indexed. -/
  | removed
deriving DecidableEq, Repr

def Reconciled.name : Reconciled → String
  | reindexed => "reindexed"
  | removed => "removed"

/-- Brings the index in line with the store for one order. -/
def reconcile (id : String) : Work Reconciled := do
  match ← request "lookup" (.findById id) with
  | some document =>
    match Documents.order document with
    | .ok order =>
      request "reindex" (.put order)
      return .reindexed
    | .error flaw => throw (.undecodable .store flaw.message)
  | none =>
    if ← request "delete" (.discard id) then return .removed
    else throw (.notFound id)

end OrderDesk.Service
