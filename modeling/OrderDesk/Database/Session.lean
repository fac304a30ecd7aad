import OrderDesk.Bson.Basic
import OrderDesk.Setback

/-!
# Sessions with a database server

A session is what a server is still going to reply, and what it was sent so far. A server with
nothing left to say replies that all is well. Talking to it uses up its replies one by one, so
every exchange ends, however many parts an answer has.
-/

namespace OrderDesk.Database

/-- A command, with the database that it goes to. The first entry names it. -/
structure Command where
  database : String
  entries : Document

/-- What comes of sending a command. -/
inductive Delivery where
  /-- The connection ended before there was a reply. -/
  | severed
  | reply (d : Document)

structure Session where
  deliveries : List Delivery
  /-- What was sent, the first command first. -/
  sent : List Command := []

/-- An exchange in a session that may come to nothing. -/
abbrev Exchange := ExceptT Setback (StateM Session)

/-- The reply of a server with nothing left to say. -/
def assent : Delivery := .reply [("ok", .double (.ofNat 1))]

/-- Sends a command and takes the next reply. -/
def send (c : Command) : Exchange Delivery := do
  let s ← get
  set ({ deliveries := s.deliveries.drop 1, sent := s.sent ++ [c] } : Session)
  return s.deliveries.headD assent

/-! ### Replies -/

/-- Whether a number in a reply is one. -/
def isOne (v : Bson) : Bool := (v.number?.map (·.eqv (.ofNat 1))).getD false

/-- Whether a reply says that the command was carried out. -/
def succeeded (reply : Document) : Bool := ((Fields.get? reply "ok").map isOne).getD false

/-- The label of errors that another attempt may mend. -/
def retryLabel : String := "RetryableWriteError"

def labels (reply : Document) : List String :=
  (((Fields.get? reply "errorLabels").bind Bson.asArray?).getD []).filterMap Bson.asString?

/-- The setback of a command that the server turned down. -/
def turnedDown (reply : Document) (message : String) : Setback :=
  if retryLabel ∈ labels reply then .broken message else .refused .store message

/-- The reply to a command that was carried out; otherwise a setback with a message. -/
def accepted (message : String) : Delivery → Except Setback Document
  | .severed => .error (.broken message)
  | .reply d => if succeeded d then .ok d else .error (turnedDown d message)

/-- A whole number in a reply. -/
def whole? : Bson → Option Int
  | .int32 n => some n.toInt
  | .int64 n => some n.toInt
  | _ => none

/-- Whether a reply reports trouble with what was written. -/
def reportsWriteTrouble (reply : Document) : Bool :=
  !(((Fields.get? reply "writeErrors").bind Bson.asArray?).getD []).isEmpty ||
    ((Fields.get? reply "writeConcernError").bind Bson.asDocument?).isSome

/-- The number of records that were written. -/
def written (message : String) (d : Delivery) : Except Setback Int := do
  let reply ← accepted message d
  match ((Fields.get? reply "n").bind whole?).filter (0 ≤ ·) with
  | none => throw (.broken message)
  | some n => if reportsWriteTrouble reply then throw (turnedDown reply message) else return n

end OrderDesk.Database
