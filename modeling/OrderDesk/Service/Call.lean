import OrderDesk.Dialogue
import OrderDesk.Documents.Query
import OrderDesk.Order.Basic
import OrderDesk.Search.Body
import OrderDesk.Setback

/-!
# Calls to the backends

What the service asks of the document store and of the search index, and what a reply to each
call is.
-/

namespace OrderDesk.Service

inductive Call where
  /-- Stores a new order. -/
  | insert (order : Order)
  | find (query : Documents.Query)
  | findById (id : String)
  /-- Deletes from the store; the reply says whether there was anything to delete. -/
  | remove (id : String)
  /-- Indexes an order, in place of an earlier one with its identity. -/
  | put (order : Order)
  | search (body : Search.Body)
  /-- Deletes from the index; the reply says whether there was anything to delete. -/
  | discard (id : String)

namespace Call

abbrev Reply : Call → Type
  | insert _ | put _ => Unit
  | find _ => List Document
  | findById _ => Option Document
  | search _ => Json
  | remove _ | discard _ => Bool

/-- What comes of a call. -/
abbrev Outcome (c : Call) : Type := Except Setback c.Reply

def backend : Call → Backend
  | insert _ | find _ | findById _ | remove _ => .store
  | put _ | search _ | discard _ => .index

/-- The name of a call, after that of its backend. -/
def name : Call → String
  | insert _ => "store.insert"
  | find _ => "store.find"
  | findById _ => "store.find_by_id"
  | remove _ => "store.delete"
  | put _ => "index.put"
  | search _ => "index.search"
  | discard _ => "index.delete"

end Call

/-- A dialogue with the backends that may fail. -/
abbrev Work := ExceptT Failure (Dialogue Call Call.Outcome)

/-- What needs no further call. -/
def settled {α : Type} (result : Except Failure α) : Work α := ExceptT.mk (.done result)

/-- Makes a call on behalf of an action, which a failure names. -/
def request (action : String) (c : Call) : Work c.Reply :=
  ExceptT.mk (.ask c fun
    | .ok reply => .done (.ok reply)
    | .error setback => .done (.error (setback.failure c.backend action)))

end OrderDesk.Service
