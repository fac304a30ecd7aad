import Mathlib.Tactic.Common
import OrderDesk.Proofs.Times
import OrderDesk.Service.Orders

/-! # Demands on the service

Clients demand that orders be created, deleted and reconciled. The work on a demand is a dialogue
of at most two calls, written out here with what becomes of each outcome. A run works on demands
one after the other and logs the results.
-/

namespace OrderDesk

theorem Dialogue.run_ask {Question : Type} {Answer : Question → Type} {α σ : Type}
    (answer : (question : Question) → σ → Answer question × σ) (question : Question)
    (next : Answer question → Dialogue Question Answer α) (s : σ) :
    (ask question next).run answer s =
      (next (answer question s).1).run answer (answer question s).2 := rfl

@[simp] theorem Dialogue.run_done {Question : Type} {Answer : Question → Type} {α σ : Type}
    (answer : (question : Question) → σ → Answer question × σ) (a : α) (s : σ) :
    (done a : Dialogue Question Answer α).run answer s = (a, s) := rfl

namespace Service

open Calendar (Instant)

/-- A demand of a client. The identity of a new order and its time are drawn with the demand. -/
inductive Demand where
  | create (input : OrderInput) (id : String) (now : Instant)
  | delete (id : String)
  | reconcile (id : String)

inductive Reply where
  | created (o : Order)
  | deleted
  | reconciled (did : Reconciled)
deriving DecidableEq

/-- A result of the work on a demand. -/
abbrev Result := Except Failure Reply

/-- Work on a demand, as the calls that it makes. -/
abbrev Steps := Dialogue Call Call.Outcome Result

namespace Demand

/-- The identity of the order that a demand is about. -/
def id : Demand → String
  | create _ id _ | delete id | reconcile id => id

/-- A demand at a time that can be written and read back. -/
def IsCurrent : Demand → Prop
  | create _ _ now => now.IsCurrent
  | delete _ | reconcile _ => True

def work : Demand → Work Reply
  | create input id now => return .created (← Service.create input id now)
  | delete id => do
    Service.delete id
    return .deleted
  | reconcile id => return .reconciled (← Service.reconcile id)

def steps (d : Demand) : Steps := d.work.run

end Demand

/-! ### The calls of each demand -/

/-- The second half of creating an order. -/
def indexing (o : Order) : Steps :=
  .ask (.put o) fun
    | .error _ => .done (.error (.halfDone o.id .create .store .index))
    | .ok () => .done (.ok (.created o))

def creation (o : Order) : Steps :=
  .ask (.insert o) fun
    | .error setback => .done (.error (setback.failure .store "insert"))
    | .ok () => indexing o

/-- The second half of deleting an order. -/
def discarding (id : String) : Steps :=
  .ask (.discard id) fun
    | .error _ => .done (.error (.halfDone id .delete .store .index))
    | .ok _ => .done (.ok .deleted)

def deletion (id : String) : Steps :=
  .ask (.remove id) fun
    | .error setback => .done (.error (setback.failure .store "delete"))
    | .ok false => .done (.error (.notFound id))
    | .ok true => discarding id

/-- Reconciling an order that the store holds. -/
def reindexing (o : Order) : Steps :=
  .ask (.put o) fun
    | .error setback => .done (.error (setback.failure .index "reindex"))
    | .ok () => .done (.ok (.reconciled .reindexed))

/-- Reconciling an order that the store does not hold. -/
def withdrawing (id : String) : Steps :=
  .ask (.discard id) fun
    | .error setback => .done (.error (setback.failure .index "delete"))
    | .ok true => .done (.ok (.reconciled .removed))
    | .ok false => .done (.error (.notFound id))

def reconciliation (id : String) : Steps :=
  .ask (.findById id) fun
    | .error setback => .done (.error (setback.failure .store "lookup"))
    | .ok none => withdrawing id
    | .ok (some d) =>
      match Documents.order d with
      | .error flaw => .done (.error (.undecodable .store flaw.message))
      | .ok o => reindexing o

/-- An input from which no order can be made reaches no backend. -/
theorem steps_create_of_error {input : OrderInput} {id : String} {now : Instant}
    {fault : InputFault} (h : Order.make input id now = .error fault) :
    (Demand.create input id now).steps = .done (.error (.badRequest fault.message)) := by
  rw [Demand.steps, Demand.work, create, h]
  rfl

theorem steps_create {input : OrderInput} {id : String} {now : Instant} {o : Order}
    (h : Order.make input id now = .ok o) :
    (Demand.create input id now).steps = creation o := by
  rw [Demand.steps, Demand.work, create, h]
  refine congrArg (Dialogue.ask (Call.insert o)) (funext fun outcome => ?_)
  cases outcome with
  | error setback => rfl
  | ok reply =>
      refine congrArg (Dialogue.ask (Call.put o)) (funext fun outcome => ?_)
      cases outcome <;> rfl

theorem steps_delete (id : String) : (Demand.delete id).steps = deletion id := by
  refine congrArg (Dialogue.ask (Call.remove id)) (funext fun outcome => ?_)
  cases outcome with
  | error setback => rfl
  | ok known =>
      cases known with
      | false => rfl
      | true =>
          refine congrArg (Dialogue.ask (Call.discard id)) (funext fun outcome => ?_)
          cases outcome <;> rfl

theorem steps_reconcile (id : String) : (Demand.reconcile id).steps = reconciliation id := by
  refine congrArg (Dialogue.ask (Call.findById id)) (funext fun outcome => ?_)
  cases outcome with
  | error setback => rfl
  | ok found =>
      cases found with
      | none =>
          refine congrArg (Dialogue.ask (Call.discard id)) (funext fun outcome => ?_)
          cases outcome with
          | error setback => rfl
          | ok known => cases known <;> rfl
      | some d =>
          simp only [Dialogue.bind, ExceptT.bindCont]
          cases Documents.order d with
          | error flaw => rfl
          | ok o =>
              refine congrArg (Dialogue.ask (Call.put o)) (funext fun outcome => ?_)
              cases outcome <;> rfl

/-! ### Runs -/

/-- A demand that was worked on, and the result. -/
structure Event where
  demand : Demand
  result : Result

section Run

variable {σ : Type} (answer : (c : Call) → σ → c.Outcome × σ)

/-- Works on demands one after the other, each with the answers from the state that the one
before left. -/
def runAll : List Demand → σ → List Event × σ
  | [], s => ([], s)
  | d :: demands, s =>
    let (result, s) := d.steps.run answer s
    let (log, s) := runAll demands s
    (⟨d, result⟩ :: log, s)

variable {answer}

theorem length_runAll (demands : List Demand) (s : σ) :
    (runAll answer demands s).1.length = demands.length := by
  induction demands generalizing s with
  | nil => rfl
  | cons d demands ih => exact congrArg (· + 1) (ih _)

/-- What the work on each demand keeps, a run keeps. -/
theorem runAll_keeps {P : List Event → σ → Prop} {demands : List Demand}
    (hstep : ∀ d ∈ demands, ∀ log s, P log s →
      P (log ++ [⟨d, (d.steps.run answer s).1⟩]) (d.steps.run answer s).2)
    {log : List Event} {s : σ} (h : P log s) :
    P (log ++ (runAll answer demands s).1) (runAll answer demands s).2 := by
  induction demands generalizing log s with
  | nil => simpa [runAll] using h
  | cons d demands ih =>
      obtain ⟨hfirst, hstep⟩ := List.forall_mem_cons.mp hstep
      have hrest := ih hstep (hfirst log s h)
      rwa [List.append_assoc] at hrest

end Run

end Service

end OrderDesk
