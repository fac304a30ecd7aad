import OrderDesk.Filter.Binding
import OrderDesk.Http.MediaType
import OrderDesk.Http.Message
import OrderDesk.Server.Routes
import OrderDesk.Service.Orders

/-!
# Answers to requests

A request is routed to an endpoint, its parameters and its body are read, and the result of the
service is written as JSON. A failure is answered with its own status.
-/

namespace OrderDesk.Server

open Http (Request Response)
open Service (Work)

/-- The name that the health routes give. -/
def serviceName : String := "order-api"

/-! ### Bodies -/

/-- Why a body is no input. -/
inductive BodyFault where
  | contentType
  | flaw (f : Binding.Flaw)

def BodyFault.message : BodyFault → String
  | contentType => "Expected request with \x60Content-Type: application/json\x60"
  | flaw .malformed => "Failed to parse the request body as JSON"
  | flaw (.mismatch path cause) =>
    "Failed to deserialize the JSON body into the target type: " ++
      (if path.isEmpty then "" else Binding.pathText path ++ ": ") ++ cause.message

def isJson (r : Request) : Bool :=
  ((r.contentType.bind Http.MediaType.ofText?).map (·.isJson)).getD false

/-- The input in the body of a request. -/
def input {α : Type} (bind : Binding.Binder α) (r : Request) : Except BodyFault α :=
  if isJson r then (Binding.ofText bind r.body).mapError .flaw else .error .contentType

def bodyInput {α : Type} (bind : Binding.Binder α) (r : Request) : Work α :=
  Service.settled ((input bind r).mapError fun fault =>
    .badRequest ("request body cannot be bound: " ++ fault.message))

/-! ### Responses -/

def okay (v : Json) : Response := { status := 200, content := .json v }

def listed (orders : List Order) : Response :=
  okay (.object [("totalItemCount", .ofNat orders.length),
    ("data", .array (orders.map Order.toJson))])

def done (id : String) : Json := .object [("id", .string id), ("success", .boolean true)]

def ofFailure (f : Failure) : Response := { status := f.status, content := .json f.toJson }

/-! ### Endpoints -/

/-- What a request brings along: its parameters as text, and what a new order is given. -/
structure Context where
  request : Request
  /-- The parameter of the path, or nothing. -/
  argument : String
  /-- The identity of an order that is made. -/
  newId : String
  now : Calendar.Instant

def filtered (backend : Backend) (r : Request) : Work Response := do
  let query ← bodyInput Filter.Request.bind r
  return listed (← Service.filter backend query)

/-- What an endpoint does. -/
def Endpoint.work (c : Context) : Endpoint → Work Response
  | .health =>
    return okay (.object [("status", .string "ok"), ("service", .string serviceName)])
  | .page text => return { status := 200, content := .text text }
  | .list => return listed (← Service.list)
  | .create => do
    let order ← Service.create (← bodyInput OrderInput.bind c.request) c.newId c.now
    return { status := 201, content := .json (done order.id) }
  | .filterNamed => do
    match Backend.ofName c.argument with
    | .ok backend => filtered backend c.request
    | .error fault => throw (.badRequest fault.message)
  | .filter backend => filtered backend c.request
  | .delete => do
    Service.delete c.argument
    return okay (done c.argument)
  | .reconcile => do
    let outcome ← Service.reconcile c.argument
    return okay (.object [("id", .string c.argument), ("outcome", .string outcome.name)])

/-- The response to a request for an endpoint. -/
def Endpoint.respond (c : Context) (e : Endpoint) :
    Dialogue Service.Call Service.Call.Outcome Response := do
  match ← (e.work c).run with
  | .ok response => return response
  | .error f => return ofFailure f

/-- The parameter of a path as text, or the empty text where a route has none. The error names a
parameter whose bytes are no text. -/
def argument : List (String × String) → Except String String
  | [] => .ok ""
  | (name, written) :: _ =>
    match Http.percentText? written.toList with
    | some text => .ok text
    | none => .error name

def invalidParameter (name : String) : Response where
  status := 400
  content := .text ("Invalid URL: Invalid UTF-8 in \x60" ++ name ++ "\x60")

/-- The response to a request, unless its target is not well formed. Questions about options are
answered everywhere. -/
def respond? (routes : List Route) (newId : String) (now : Calendar.Instant) (r : Request) :
    Option (Dialogue Service.Call Service.Call.Outcome Response) :=
  r.path?.map fun path =>
    if r.method = "OPTIONS" then return .empty 200
    else
      match route? routes (pathSegments path) with
      | none => return .empty 404
      | some m =>
        match m.route.endpoint? r.method with
        | none => return { status := 405, allow := some m.route.methods }
        | some endpoint =>
          match argument m.arguments with
          | .error name =>
            return invalidParameter name
          | .ok argument => do
            let response ← endpoint.respond { request := r, argument, newId, now }
            return if r.method = "HEAD" then { response with content := .text "" } else response

end OrderDesk.Server
