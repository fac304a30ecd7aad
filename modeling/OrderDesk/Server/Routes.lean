import OrderDesk.Backend
import OrderDesk.FieldPath
import OrderDesk.Http.Percent

/-!
# Routes

A route is a path pattern with an endpoint for some methods. The segments of a pattern are fixed
or stand for any text but the empty one. Of several patterns that match, the one with the earlier
fixed segment is taken. A resource that can be read also answers questions about its head.
-/

namespace OrderDesk.Server

inductive Endpoint where
  | health
  /-- A fixed text outside the order routes. -/
  | page (text : String)
  | list
  | create
  /-- Filters on the backend that the path names. -/
  | filterNamed
  | filter (backend : Backend)
  | delete
  | reconcile
deriving DecidableEq, Repr

inductive Segment where
  | fixed (text : String)
  | parameter (name : String)
deriving DecidableEq, Repr

structure Route where
  pattern : List Segment
  endpoints : List (String × Endpoint)

/-- The segments of a path, which begins with a slash. -/
def pathSegments (path : List Char) : List String :=
  ((FieldPath.split '/' path).drop 1).map String.ofList

/-- A segment of a pattern; a parameter stands between braces. -/
def Segment.ofText (text : String) : Segment :=
  match text.toList with
  | '\x7b' :: cs =>
    match cs.reverse with
    | '\x7d' :: name => parameter (String.ofList name.reverse)
    | _ => fixed text
  | _ => fixed text

namespace Route

def ofPath (path : String) (endpoints : List (String × Endpoint)) : Route where
  pattern := (pathSegments path.toList).map Segment.ofText
  endpoints

/-- The parameters of a path that matches a pattern, by name. -/
def arguments? : List Segment → List String → Option (List (String × String))
  | [], [] => some []
  | .fixed text :: pattern, segment :: segments =>
    if text = segment then arguments? pattern segments else none
  | .parameter name :: pattern, segment :: segments =>
    if segment = "" then none
    else (arguments? pattern segments).map ((name, segment) :: ·)
  | _, _ => none

/-- Whether a pattern goes before another one that matches the same path. -/
def goesBefore : List Segment → List Segment → Bool
  | .fixed _ :: _, .parameter _ :: _ => true
  | .parameter _ :: _, .fixed _ :: _ => false
  | _ :: ps, _ :: qs => goesBefore ps qs
  | _, _ => false

/-- The methods that a route answers, in alphabetical order. -/
def methods (r : Route) : List String :=
  let named := r.endpoints.map (·.1)
  let all := if "GET" ∈ named then "HEAD" :: named else named
  all.mergeSort (fun a b => compare a b != .gt)

/-- The endpoint for a method. -/
def endpoint? (r : Route) (method : String) : Option Endpoint :=
  r.endpoints.lookup (if method = "HEAD" then "GET" else method)

end Route

/-- A route that matches, with its parameters. -/
structure Match where
  route : Route
  arguments : List (String × String)

/-- The route for a path. -/
def route? (routes : List Route) (segments : List String) : Option Match :=
  (routes.filterMap fun r => (Route.arguments? r.pattern segments).map (Match.mk r)).foldl
    (fun best m =>
      match best with
      | some b => if Route.goesBefore m.route.pattern b.route.pattern then some m else some b
      | none => some m)
    none

def healthRoutes : List Route :=
  [.ofPath "/health" [("GET", .health)], .ofPath "/healthz" [("GET", .health)]]

def orderRoutes : List Route :=
  [.ofPath "/api/orders" [("GET", .list), ("POST", .create)],
   .ofPath "/api/orders/filter/\x7bbackend\x7d" [("POST", .filterNamed)],
   .ofPath "/api/orders/GenericEndpoint" [("POST", .filter .store)],
   .ofPath "/api/orders/GenericEndpointElastic" [("POST", .filter .index)],
   .ofPath "/api/orders/\x7bid\x7d" [("DELETE", .delete)],
   .ofPath "/api/orders/\x7bid\x7d/reconcile" [("POST", .reconcile)]]

end OrderDesk.Server
