/-!
# Dialogues

A dialogue asks one question after the other and goes on with the answers until it ends with a
result. What counts as an answer depends on the question. Whoever runs a dialogue decides what
the answers are, so the same dialogue can be run against a state, against a script, or one
question at a time among others.
-/

namespace OrderDesk

inductive Dialogue (Question : Type) (Answer : Question → Type) (α : Type) where
  | done (a : α)
  | ask (question : Question) (next : Answer question → Dialogue Question Answer α)

namespace Dialogue

variable {Question : Type} {Answer : Question → Type} {α β : Type}

/-- Goes on with a second dialogue where the first one ends. -/
protected def bind : Dialogue Question Answer α → (α → Dialogue Question Answer β) →
    Dialogue Question Answer β
  | done a, f => f a
  | ask question next, f => ask question fun answer => (next answer).bind f

instance : Monad (Dialogue Question Answer) where
  pure := done
  bind := Dialogue.bind

/-- Answers every question from a state, which the answers may change. -/
def run {σ : Type} (answer : (question : Question) → σ → Answer question × σ) :
    Dialogue Question Answer α → σ → α × σ
  | done a, s => (a, s)
  | ask question next, s =>
    let (reply, s) := answer question s
    run answer (next reply) s

@[simp] theorem done_bind (a : α) (f : α → Dialogue Question Answer β) :
    (done a : Dialogue Question Answer α) >>= f = f a := rfl

@[simp] theorem ask_bind (question : Question)
    (next : Answer question → Dialogue Question Answer α) (f : α → Dialogue Question Answer β) :
    ask question next >>= f = ask question fun answer => next answer >>= f := rfl

@[simp] theorem bind_done (d : Dialogue Question Answer α) : d >>= done = d := by
  induction d with
  | done a => rfl
  | ask question next ih => simp only [ask_bind, ih]

theorem bind_bind {γ : Type} (d : Dialogue Question Answer α)
    (f : α → Dialogue Question Answer β) (g : β → Dialogue Question Answer γ) :
    d >>= f >>= g = d >>= fun a => f a >>= g := by
  induction d with
  | done a => rfl
  | ask question next ih => simp only [ask_bind, ih]

/-- Two dialogues in sequence are run one after the other. -/
theorem run_bind {σ : Type} (answer : (question : Question) → σ → Answer question × σ)
    (d : Dialogue Question Answer α) (f : α → Dialogue Question Answer β) (s : σ) :
    run answer (d >>= f) s = run answer (f (run answer d s).1) (run answer d s).2 := by
  induction d generalizing s with
  | done a => rfl
  | ask question next ih => simp only [ask_bind, run, ih]

end Dialogue

end OrderDesk
