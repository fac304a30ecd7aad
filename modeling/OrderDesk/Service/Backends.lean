import OrderDesk.Documents.Collection
import OrderDesk.Search.Index
import OrderDesk.Service.Call

/-!
# Backends in memory

A collection of documents and a search index, and what each call does to them.
-/

namespace OrderDesk.Service

structure Backends where
  store : Documents.Collection := []
  index : Search.Index := {}

namespace Backends

/-- What comes of a call, and the backends after it. -/
def perform : (c : Call) → Backends → c.Outcome × Backends
  | .insert order, b =>
    match b.store.insert order with
    | .ok store => (.ok (), { b with store })
    | .error setback => (.error setback, b)
  | .find query, b => (.ok (b.store.find query), b)
  | .findById id, b => (.ok (b.store.findById id), b)
  | .remove id, b =>
    let store := b.store.remove id
    (.ok (store.length != b.store.length), { b with store })
  | .put order, b => (.ok (), { b with index := b.index.put order })
  | .search body, b => (.ok (b.index.search body), b)
  | .discard id, b => (.ok (b.index.contains id), { b with index := b.index.discard id })

/-- Runs a piece of work on backends that never fail of themselves. -/
def run {α : Type} (w : Work α) (b : Backends) : Except Failure α × Backends :=
  Dialogue.run perform (ExceptT.run w) b

end Backends

end OrderDesk.Service
