import OrderDesk.Failure
import OrderDesk.Json.Printer
import OrderDesk.Order.Binding

/-!
# Orders among search hits

The response to a search lists hits, each with the source of an order. It is read as a whole or
not at all: a hit without a readable source, or an exact total above the number of hits, fails
it, so that a response that was cut short is never taken for a complete one.
-/

namespace OrderDesk.Search

/-- Why a response has no list of orders. -/
inductive HitFault where
  | noHits
  | cutShort (shown total : Nat)
  | noSource (position : Nat)
  | wrongSource (position : Nat) (source : Json)
  | noOrder (position : Nat) (flaw : Binding.Flaw)

def HitFault.message : HitFault → String
  | noHits => "response has no hits array"
  | cutShort shown total =>
    "search returned " ++ toString shown ++ " of " ++ toString total ++ " matching hits"
  | noSource position => "hit " ++ toString position ++ " carries no _source"
  | wrongSource position source =>
    "hit " ++ toString position ++ " has a non-object _source: " ++ source.write
  | noOrder position flaw => "hit " ++ toString position ++ ": " ++ flaw.message

def hits? (response : Json) : Option (List Json) :=
  (response.follow? ["hits", "hits"]).bind Json.asArray?

/-- The exact number of matches, if the response gives one. A total is exact unless its relation
is named otherwise. -/
def exactTotal? (response : Json) : Option Nat :=
  let relation := (response.follow? ["hits", "total", "relation"]).bind Json.asString?
  if relation.getD "eq" = "eq" then (response.follow? ["hits", "total", "value"]).bind Json.asNat?
  else none

/-- The source of a hit as a value: an object, or a text that spells any value. -/
def source (position : Nat) (hit : Json) : Except HitFault Json :=
  match hit.get? "_source" with
  | some (.string text) =>
    match Json.parse? text with
    | some v => .ok v
    | none => .error (.noOrder position .malformed)
  | some (.object members) => .ok (.object members)
  | some other => .error (.wrongSource position other)
  | none => .error (.noSource position)

/-- The order in a hit. -/
def order (position : Nat) (hit : Json) : Except HitFault Order := do
  let v ← source position hit
  (Binding.ofValue Order.bind v).mapError (.noOrder position)

/-- The orders in a response, one for each hit. -/
def hitOrders (response : Json) : Except HitFault (List Order) :=
  match hits? response with
  | none => .error .noHits
  | some hits =>
    let all := hits.zipIdx.mapM fun (hit, position) => order position hit
    match exactTotal? response with
    | some total => if hits.length < total then .error (.cutShort hits.length total) else all
    | none => all

/-- The orders in a response, as the caller of a search gets them. -/
def orders (response : Json) : Except Failure (List Order) :=
  (hitOrders response).mapError fun fault => .undecodable .index fault.message

end OrderDesk.Search
