import OrderDesk.Binary64.Layout
import OrderDesk.Failure

/-!
# Setbacks

How a call to a backend comes to nothing. A refusal is final: the backend understood the call
and will refuse it again. A broken call may succeed another time, and so may one that took too
long. A caller is told which of the three it was, but not the cause.
-/

namespace OrderDesk

inductive Setback where
  | refused (backend : Backend) (reason : String)
  | broken (message : String)
  /-- The reply did not come within the limit, given in milliseconds. -/
  | overdue (limit : Nat)
deriving DecidableEq

/-- Milliseconds as seconds, with a fraction if there is one. -/
def secondsText (millis : Nat) : String :=
  let seconds := Binary64.ofNat (millis / 1000)
  let nanos := Binary64.ofNat (millis % 1000 * 1000000)
  (seconds.add (nanos.div (.ofNat (1000000000)))).write .plain

namespace Setback

def message : Setback → String
  | refused backend reason =>
    "the " ++ backend.description ++ " rejected the request: " ++ reason
  | broken m => m
  | overdue limit => "timed out after " ++ secondsText limit ++ "s"

/-- What the caller of an action is told. -/
def failure (backend : Backend) (action : String) : Setback → Failure
  | refused _ _ => .internal ("the " ++ backend.description ++ " rejected the " ++ action)
  | broken _ => .unavailable backend (action ++ " failed")
  | overdue limit => .unavailable backend ((overdue limit).message)

end Setback

end OrderDesk
