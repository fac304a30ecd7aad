import OrderDesk.Amount
import OrderDesk.Binary64.Layout
import OrderDesk.Order.Basic

/-!
# Totals and new orders

The total of an order is the sum of quantity times unit price, computed on amounts and not on
floats. A new order gets its identity, its total and its times when it is made.
-/

namespace OrderDesk

/-- Why line items have no total. -/
inductive TotalFault where
  | unusablePrice (name : String) (price : Binary64)
  | priceOutOfRange (price : Binary64)
  | overflow
deriving DecidableEq

def TotalFault.message : TotalFault → String
  | unusablePrice name price =>
    "unit price of '" ++ name ++ "' must be a finite non-negative number, got " ++
      price.write .plain
  | priceOutOfRange price => "unit price " ++ price.write .plain ++ " is out of range"
  | overflow => "order total overflows"

/-- The price of an item as an amount. -/
def LineItem.price (item : LineItem) : Except TotalFault Amount :=
  match item.unitPrice with
  | .finite x =>
    if x.value < 0 then .error (.unusablePrice item.name item.unitPrice)
    else
      match Amount.ofFinite? x with
      | some a => .ok a
      | none => .error (.priceOutOfRange item.unitPrice)
  | _ => .error (.unusablePrice item.name item.unitPrice)

/-- Adds the price of an item, as often as it is ordered, to a sum. -/
def addLine (sum : Amount) (item : LineItem) : Except TotalFault Amount := do
  let price ← item.price
  match (price.times? item.quantity.toNat).bind sum.add? with
  | some sum => return sum
  | none => throw .overflow

/-- The sum over line items. -/
def sumLines (items : List LineItem) : Except TotalFault Amount := items.foldlM addLine .zero

/-- The total of line items. -/
def orderTotal (items : List LineItem) : Except TotalFault Binary64 :=
  (sumLines items).map fun sum => sum.normalized.toBinary64

/-- Why no order can be made from an input. -/
inductive InputFault where
  /-- The positions of the items with a negative price. -/
  | negativePrices (positions : List Nat)
  | total (fault : TotalFault)
deriving DecidableEq

def InputFault.message : InputFault → String
  | negativePrices positions =>
    String.join (positions.map fun i =>
      "line_items[" ++ toString i ++ "].unit_price: unit price must be non-negative")
  | total fault => fault.message

/-- The positions of the items with a negative price. -/
def negativePrices (items : List LineItem) : List Nat :=
  (items.zipIdx.filter fun (item, _) => item.unitPrice.lt .zero).map (·.2)

/-- A new order, given its identity and the time at which it is made. -/
def Order.make (input : OrderInput) (id : String) (now : Calendar.Instant) :
    Except InputFault Order :=
  match negativePrices input.lineItems with
  | [] =>
    match orderTotal input.lineItems with
    | .ok total =>
      .ok { input with id, total, createdAt := some now, updatedAt := some now }
    | .error fault => .error (.total fault)
  | positions => .error (.negativePrices positions)

end OrderDesk
