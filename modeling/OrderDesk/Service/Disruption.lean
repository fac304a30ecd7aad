import OrderDesk.Service.Backends

/-!
# Disrupted backends

What can go wrong between the service and its backends: a call may fail before it has an effect
or after it, be refused, be late or never come back, or bring a reply that is not the one of the
backend.
-/

namespace OrderDesk.Service

inductive Disruption where
  /-- The call fails and has no effect. -/
  | severed
  /-- The call is refused and has no effect. -/
  | refused
  /-- The call never comes back and has no effect. -/
  | stalled
  /-- The call takes effect, but its reply gets lost. -/
  | lost
  /-- The call takes effect after some milliseconds, unless that is too late. -/
  | delayed (millis : Nat)
  /-- The store replies with other documents. -/
  | documents (ds : List Document)
  /-- The index replies with another response. -/
  | response (v : Json)

/-- The reply in place of the one of the backend, if the disruption gives one for such a call. -/
def Disruption.reply? : Disruption → (c : Call) → Option c.Reply
  | documents ds, .find _ => some ds
  | documents ds, .findById _ => some ds.head?
  | response v, .search _ => some v
  | _, _ => none

/-- What comes of a call that is disrupted or not, given the limit for its reply in
milliseconds. -/
def Backends.performUnder (limit : Nat) (disruption : Option Disruption) (c : Call)
    (b : Backends) : c.Outcome × Backends :=
  match disruption with
  | none => b.perform c
  | some .severed => (.error (.broken "disrupted"), b)
  | some .refused => (.error (.refused c.backend "disrupted"), b)
  | some .stalled => (.error (.overdue limit), b)
  | some .lost =>
    match b.perform c with
    | (.ok _, b) => (.error (.broken "disrupted"), b)
    | failed => failed
  | some (.delayed millis) => if limit < millis then (.error (.overdue limit), b) else b.perform c
  | some d =>
    match d.reply? c with
    | some reply => (.ok reply, b)
    | none => b.perform c

end OrderDesk.Service
