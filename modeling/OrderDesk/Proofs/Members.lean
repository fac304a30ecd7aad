import Mathlib.Tactic.Common
import OrderDesk.Proofs.Binding

/-! # Members that may stand for others

Members of an object are bound one after the other, and only what they leave behind matters to the
rest: the record so far, and which parts were named. So a member may be replaced by another one of
the same part that binds alike, and left out if it changes nothing and no other member names its
part.
-/

namespace OrderDesk.Binding

open Json (Draft Room)

variable {ρ : Type} {parts : List (Part ρ)} {room : Room} {part : Part ρ} {name : String}
  {d e : Draft} {members before after after' : List (Option String × Draft)} {seen : List String}
  {r r' : ρ}

/-- A part that is bound on its own binds a record to what it puts there. -/
theorem Part.of_bind_eq_ok {α : Type} {secondName : Option String} {bind : Binder α}
    {put : α → ρ → ρ} :
    (Part.of name bind put secondName).bind room d r = .ok r' ↔
      ∃ a, bind room d = .ok a ∧ put a r = r' := by
  simp only [Part.of, Except.map]
  cases bind room d <;> simp

/-- Members bind if the first one does, to a part that was not named before or to none, and the
others do after it. -/
theorem bindMembers_cons_eq_ok :
    bindMembers parts room seen r ((some name, d) :: members) = .ok r' ↔
      (parts.find? (·.answersTo name) = none ∧ d.whole = true ∧
          bindMembers parts room seen r members = .ok r') ∨
        ∃ part, parts.find? (·.answersTo name) = some part ∧ part.name ∉ seen ∧
          ∃ next, part.bind room d r = .ok next ∧
            bindMembers parts room (part.name :: seen) next members = .ok r' := by
  rw [bindMembers]
  cases parts.find? (·.answersTo name) with
  | none => cases d.whole <;> simp
  | some part =>
      by_cases hseen : part.name ∈ seen
      · simp [hseen, fail]
      · cases hbind : part.bind room d r <;> simp [hseen, hbind, within]

/-- A member of a part binds if the part was not named before and binds its draft. -/
theorem bindMembers_cons_of_find (hfind : parts.find? (·.answersTo name) = some part) :
    bindMembers parts room seen r ((some name, d) :: members) = .ok r' ↔
      part.name ∉ seen ∧ ∃ next, part.bind room d r = .ok next ∧
        bindMembers parts room (part.name :: seen) next members = .ok r' := by
  rw [bindMembers_cons_eq_ok, hfind]
  simp

/-- Members that bind alike do so behind any others. -/
theorem bindMembers_append_congr
    (h : ∀ seen r, bindMembers parts room seen r after = .ok r' ↔
      bindMembers parts room seen r after' = .ok r') :
    bindMembers parts room seen r (before ++ after) = .ok r' ↔
      bindMembers parts room seen r (before ++ after') = .ok r' := by
  induction before generalizing seen r with
  | nil => exact h seen r
  | cons member before ih =>
      obtain ⟨key, d⟩ := member
      cases key with
      | none => exact Iff.rfl
      | some name => simp only [List.cons_append, bindMembers_cons_eq_ok, ih]

/-- A member may be replaced by another one of the same part that binds alike. -/
theorem bindMembers_replace {other : String} (hfind : parts.find? (·.answersTo name) = some part)
    (hother : parts.find? (·.answersTo other) = some part)
    (hbind : ∀ r next, part.bind room d r = .ok next ↔ part.bind room e r = .ok next) :
    bindMembers parts room seen r (before ++ (some name, d) :: after) = .ok r' ↔
      bindMembers parts room seen r (before ++ (some other, e) :: after) = .ok r' := by
  apply bindMembers_append_congr
  intro seen r
  rw [bindMembers_cons_of_find hfind, bindMembers_cons_of_find hother]
  simp only [hbind]

/-- No member has a part of some name. -/
def Avoid (parts : List (Part ρ)) (partName : String) (members : List (Option String × Draft)) :
    Prop :=
  ∀ member ∈ members, ∀ name ∈ member.1, ∀ part,
    parts.find? (·.answersTo name) = some part → part.name ≠ partName

/-- Where no member has a part, it does not matter whether it was named before. -/
theorem bindMembers_seen_congr {partName : String} {seen' : List String}
    (havoid : Avoid parts partName members)
    (hseen : ∀ other, other ≠ partName → (other ∈ seen ↔ other ∈ seen')) :
    bindMembers parts room seen r members = .ok r' ↔
      bindMembers parts room seen' r members = .ok r' := by
  induction members generalizing seen seen' r with
  | nil => exact Iff.rfl
  | cons member members ih =>
      obtain ⟨key, d⟩ := member
      obtain ⟨hhead, htail⟩ := List.forall_mem_cons.mp havoid
      cases key with
      | none => exact Iff.rfl
      | some name =>
          rw [bindMembers_cons_eq_ok, bindMembers_cons_eq_ok, ih htail hseen]
          refine or_congr_right (exists_congr fun part => and_congr_right fun hfind => ?_)
          rw [hseen part.name (hhead name rfl part hfind)]
          refine and_congr_right fun _ => exists_congr fun next => and_congr_right fun _ => ?_
          exact ih htail fun other hother => by
            rw [List.mem_cons, List.mem_cons, hseen other hother]

/-- A member may be left out if it changes nothing where a property holds, which holds at first and
which all other parts keep, and if no other member has the same part. -/
theorem bindMembers_omit {P : ρ → Prop} (hfind : parts.find? (·.answersTo name) = some part)
    (hbind : ∀ r, P r → part.bind room d r = .ok r)
    (hkeeps : ∀ other ∈ parts, other.name ≠ part.name → other.Keeps P)
    (hbefore : Avoid parts part.name before) (hafter : Avoid parts part.name after)
    (hseen : part.name ∉ seen) (hr : P r) :
    bindMembers parts room seen r (before ++ (some name, d) :: after) = .ok r' ↔
      bindMembers parts room seen r (before ++ after) = .ok r' := by
  induction before generalizing seen r with
  | nil =>
      -- What remains of the member is that its part was named, which no later one asks about.
      rw [List.nil_append, List.nil_append, bindMembers_cons_of_find hfind, hbind r hr]
      simp only [hseen, not_false_eq_true, Except.ok.injEq, true_and, exists_eq_left']
      exact bindMembers_seen_congr hafter fun other hother => by simp [hother]
  | cons member before ih =>
      obtain ⟨key, e⟩ := member
      obtain ⟨hhead, htail⟩ := List.forall_mem_cons.mp hbefore
      cases key with
      | none => exact Iff.rfl
      | some key =>
          rw [List.cons_append, List.cons_append, bindMembers_cons_eq_ok, bindMembers_cons_eq_ok,
            ih htail hseen hr]
          refine or_congr_right (exists_congr fun other => and_congr_right fun hother => ?_)
          have hne := hhead key rfl other hother
          refine and_congr_right fun _ => exists_congr fun next => and_congr_right fun hnext => ?_
          have hkept := hkeeps other (List.mem_of_find?_eq_some hother) hne
          refine ih htail (fun hmem => ?_) (hkept room e r next hnext hr)
          exact (List.mem_cons.mp hmem).elim (fun heq => hne heq.symm) hseen

end OrderDesk.Binding
