import OrderDesk.Calendar.Written
import OrderDesk.Json.Basic
import OrderDesk.Order.Basic

/-!
# Written orders

The JSON form of an order. A missing time, or one that only stands for a missing one, is an empty
text.
-/

namespace OrderDesk

/-- The text of an optional time. -/
def timeText (t : Option Calendar.Instant) : String :=
  match t.filter (!·.isPlaceholder) with
  | some t => t.write
  | none => ""

def LineItem.toJson (item : LineItem) : Json :=
  .object [
    ("name", .string item.name),
    ("quantity", .ofNat item.quantity.toNat),
    ("unitPrice", .ofBinary64 item.unitPrice)]

def Order.toJson (o : Order) : Json :=
  .object [
    ("id", .string o.id),
    ("userId", .string o.userId),
    ("status", .string o.status),
    ("city", .string o.city),
    ("addressDetail", .string o.addressDetail),
    ("lineItems", .array (o.lineItems.map LineItem.toJson)),
    ("total", .ofBinary64 o.total),
    ("createdAt", .string (timeText o.createdAt)),
    ("updatedAt", .string (timeText o.updatedAt))]

end OrderDesk
