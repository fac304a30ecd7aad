import OrderDesk.Backend
import OrderDesk.Json.Basic

/-!
# Failures

What a caller is told when a call does not succeed: a kind, a message, an HTTP status and, for
some kinds, details.
-/

namespace OrderDesk

/-- A write that touches both backends. -/
inductive Operation where
  | create
  | delete
deriving DecidableEq, Repr

def Operation.name : Operation → String
  | create => "create"
  | delete => "delete"

inductive Failure where
  /-- The request cannot be understood or is not valid; nothing was attempted. -/
  | badRequest (message : String)
  | notFound (id : String)
  /-- A backend did not answer. -/
  | unavailable (backend : Backend) (reason : String)
  /-- One backend was written and the other was not. -/
  | halfDone (id : String) (operation : Operation) (completed pending : Backend)
  /-- A backend returned something that is no order. -/
  | undecodable (backend : Backend) (message : String)
  /-- A backend refused the call. -/
  | internal (message : String)
deriving DecidableEq, Repr

namespace Failure

def code : Failure → String
  | badRequest _ => "BAD_REQUEST"
  | notFound _ => "NOT_FOUND"
  | unavailable _ _ => "BACKEND_UNAVAILABLE"
  | halfDone _ _ _ _ => "PARTIAL_FAILURE"
  | undecodable _ _ => "DECODE_FAILURE"
  | internal _ => "INTERNAL_ERROR"

def status : Failure → Nat
  | badRequest _ => 400
  | notFound _ => 404
  | unavailable _ _ => 503
  | halfDone _ _ _ _ => 500
  | undecodable _ _ => 502
  | internal _ => 500

def message : Failure → String
  | badRequest m => "Bad request: " ++ m
  | notFound id => "Order with id '" ++ id ++ "' not found"
  | unavailable backend reason =>
    "The " ++ backend.description ++ " is unavailable: " ++ reason
  | halfDone id operation completed pending =>
    "Order '" ++ id ++ "' " ++ operation.name ++ " succeeded in the " ++ completed.description ++
      " but failed in the " ++ pending.description ++ "; reconcile required"
  | undecodable backend m =>
    "Failed to decode order returned by the " ++ backend.description ++ ": " ++ m
  | internal m => "Internal error: " ++ m

def details? : Failure → Option Json
  | notFound id => some (.object [("id", .string id)])
  | unavailable backend _ => some (.object [("backend", .string backend.name)])
  | halfDone id operation completed pending =>
    some (.object [("id", .string id), ("operation", .string operation.name),
      ("completed", .string completed.name), ("pending", .string pending.name)])
  | _ => none

/-- The body of the response that reports a failure. -/
def toJson (f : Failure) : Json :=
  .object ([("code", .string f.code), ("message", .string f.message)] ++
    (f.details?.map fun d => ("details", d)).toList)

end Failure

end OrderDesk
