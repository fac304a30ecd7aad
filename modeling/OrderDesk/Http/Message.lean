import OrderDesk.Json.Basic

/-!
# Requests and responses

The parts of HTTP messages that decide what is answered. The target of a request is its path,
perhaps with a query and a fragment, which no route looks at.
-/

namespace OrderDesk.Http

structure Request where
  method : String
  target : String
  contentType : Option String := none
  body : String := ""

inductive Content where
  | text (s : String)
  | json (v : Json)

structure Response where
  status : Nat
  content : Content := .text ""
  /-- The methods that a resource has, where another one was tried. -/
  allow : Option (List String) := none

/-- A response with nothing in it. -/
def Response.empty (status : Nat) : Response := { status }

namespace Request

/-- Controls, blanks and a few marks must not stand in a path as they are. -/
def isPathChar (c : Char) : Bool := ' ' < c && c ≠ '<' && c ≠ '>' && c ≠ '\x60'

/-- Nor in a query. -/
def isQueryChar (c : Char) : Bool := ' ' < c && c ≠ '<' && c ≠ '>' && c ≠ '"'

def endsPath (c : Char) : Bool := c = '?' || c = '#'

/-- The path of a target that is well formed. -/
def path? (r : Request) : Option (List Char) :=
  let cs := r.target.toList
  let path := cs.takeWhile (!endsPath ·)
  let query := (cs.dropWhile (!endsPath ·)).takeWhile (· ≠ '#')
  if path.head? = some '/' && path.all isPathChar && query.all isQueryChar then some path
  else none

end Request

end OrderDesk.Http
