import OrderDesk.Calendar.Instant
import OrderDesk.Binary64.Basic

/-!
# Orders

An order has line items, a total, and the times at which it was made and last changed. A caller
gives the first part of it; the rest is assigned when the order is made.
-/

namespace OrderDesk

/-- One line of an order. -/
structure LineItem where
  name : String := ""
  quantity : UInt32 := 0
  unitPrice : Binary64 := .zero
deriving DecidableEq

structure Order where
  id : String := ""
  userId : String := ""
  status : String := ""
  city : String := ""
  addressDetail : String := ""
  lineItems : List LineItem := []
  total : Binary64 := .zero
  createdAt : Option Calendar.Instant := none
  updatedAt : Option Calendar.Instant := none
deriving DecidableEq

/-- What a caller gives for a new order. -/
structure OrderInput where
  userId : String := ""
  status : String := ""
  city : String := ""
  addressDetail : String := ""
  lineItems : List LineItem := []
deriving DecidableEq

namespace Calendar.Instant

/-- Instants that stand for "no time": the epoch itself, and all of the first year and before. -/
def isPlaceholder (t : Instant) : Bool := (t.seconds = 0 && t.nanos = 0) || t.date.year ≤ 1

end Calendar.Instant

end OrderDesk
