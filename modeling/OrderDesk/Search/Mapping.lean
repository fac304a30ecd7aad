import OrderDesk.Json.Basic

/-!
# The mapping of orders

How the search index treats the fields of an order: whole values for exact filters, and analyzed
text for the address.
-/

namespace OrderDesk.Search

/-- The type of a field. -/
def fieldType (name : String) : Json := .object [("type", .string name)]

/-- Dates that do not read as such are stored without being searchable. -/
def lenientDate : Json :=
  .object [("type", .string "date"), ("ignore_malformed", .boolean true)]

def properties (fields : List (String × Json)) : Json := .object [("properties", .object fields)]

/-- The body that creates an index of orders. -/
def orderMapping : Json :=
  .object [("mappings", properties [
    ("id", fieldType "keyword"),
    ("userId", fieldType "keyword"),
    ("status", fieldType "keyword"),
    ("city", fieldType "keyword"),
    ("addressDetail", fieldType "text"),
    ("lineItems", properties [
      ("name", fieldType "keyword"),
      ("quantity", fieldType "integer"),
      ("unitPrice", fieldType "double")]),
    ("total", fieldType "double"),
    ("createdAt", lenientDate),
    ("updatedAt", lenientDate)])]

end OrderDesk.Search
