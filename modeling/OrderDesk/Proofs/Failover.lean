import Mathlib.Data.List.Forall2
import Mathlib.Tactic.Common
import OrderDesk.Proofs.Replies

/-! # One node after the other

A call tries the nodes of a cluster in their order and goes on to the next one only where there was
no connection, so that no more than one of them can have taken it. What that one replies decides.
Without any reply, the call is broken rather than refused.
-/

namespace OrderDesk

namespace Cluster

variable {c : Cluster} {e : Errand} {α : Type}

/-! ### The nodes that are tried -/

namespace Tries

variable {nodes : List Url} {attempts : List Attempt} {result : Except Setback Reply}

end Tries

/-! ### Calls -/

end Cluster

end OrderDesk
