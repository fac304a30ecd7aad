import OrderDesk.Dialogue
import OrderDesk.Http.Status
import OrderDesk.Json.Reader
import OrderDesk.Setback
import OrderDesk.Url.Reader

/-!
# Exchanges with a search cluster

A cluster has one or more nodes, each at an address. A request goes to the first node, and on to
the next one only if a node cannot be reached. Whatever else comes of it is final.
-/

namespace OrderDesk

structure Cluster where
  nodes : List Url
  /-- The name of the index of orders. -/
  index : String
  /-- Whether writes wait until they can be found. -/
  refresh : Bool := true

namespace Cluster

structure Request where
  method : String
  url : Url
  /-- The JSON that is sent along. -/
  body : Option Json := none

structure Reply where
  status : Nat
  body : String

/-- What comes of sending a request to one node. -/
inductive Delivery where
  /-- No connection was made, so the node saw nothing. -/
  | unreachable
  /-- The connection ended before there was a reply. -/
  | severed
  | reply (r : Reply)

/-- A dialogue with the nodes of a cluster that may come to nothing. -/
abbrev Exchange := ExceptT Setback (Dialogue Request fun _ => Delivery)

/-- Sends a request to the node at its address. -/
def deliver (r : Request) : Exchange Delivery := ExceptT.lift (.ask r .done)

/-! ### Clusters -/

/-- Why there is no cluster. -/
inductive AddressFault where
  | invalid (address : String) (fault : Url.Fault)
  | noAddress

def AddressFault.message : AddressFault → String
  | invalid address fault =>
    "Invalid search index address '" ++ address ++ "': " ++ fault.message
  | noAddress => "At least one search index address is required"

/-- The cluster with nodes at some addresses. -/
def ofAddresses (addresses : List String) (index : String) : Except AddressFault Cluster := do
  let nodes ← addresses.mapM fun address =>
    (Url.ofText address).mapError (.invalid address)
  if nodes.isEmpty then throw .noAddress
  return { nodes, index }

/-! ### Sending -/

/-- Something to ask of any node: a place below the index, and what is sent there. -/
structure Errand where
  method : String
  segments : List String := []
  /-- Whether the request says if it waits for a refresh. -/
  saysRefresh : Bool := false
  body : Option Json := none

/-- The address of an errand at a node, if something can be added to that of the node. -/
def endpoint? (c : Cluster) (e : Errand) (node : Url) : Option Url :=
  if node.isBase then
    let url := node.extend (c.index :: e.segments)
    some (if e.saysRefresh then url.withParameter "refresh" (toString c.refresh) else url)
  else none

/-- Characters that a request has no place for in its host. -/
def isUnsendable (c : Char) : Bool := "\"\x60\x7b\x7d".toList.contains c

/-- Whether requests can be sent to an address at all. -/
def isSendable (url : Url) : Bool :=
  (url.scheme = "http" || url.scheme = "https") && !url.host.toList.any isUnsendable

/-- What is said of a request that found no reply. -/
def sendingFailed (url : Url) : String :=
  (if isSendable url then "error sending request" else "builder error") ++ " for url (" ++
    url.withoutCredentials.write ++ ")"

/-- Tries one node after the other, given what the last one that was not reached left to say. -/
def sendTo (c : Cluster) (e : Errand) (last : String) : List Url → Exchange Reply
  | [] => throw (.broken last)
  | node :: nodes =>
    match c.endpoint? e node with
    | none =>
      throw (.broken ("Search index address '" ++ node.write ++ "' cannot be a base URL"))
    | some url => do
      let failed := "Search index request failed: " ++ sendingFailed url
      -- no connection is tried, so there is no next node either
      if !isSendable url then throw (.broken failed)
      match ← deliver ⟨e.method, url, e.body⟩ with
      | .unreachable => c.sendTo e ("No search index node reachable: " ++ sendingFailed url) nodes
      | .severed => throw (.broken failed)
      | .reply r => return r

/-- Sends an errand to the first node that can be reached. -/
def send (c : Cluster) (e : Errand) : Exchange Reply :=
  c.sendTo e "No search index address configured" c.nodes

end Cluster

end OrderDesk
