import Mathlib.Tactic.Common
import OrderDesk.Proofs.Binding
import OrderDesk.Proofs.Totals

/-! # Numbers in range

A value that is held has natural numbers of at most 64 bits. So has every text that is read: a
number that is too large for that becomes a float, or stands for no value. All these numbers are
finite as floats.
-/

namespace OrderDesk.Json

/-- A natural number that 64 bits hold, or a number of another class. -/
def Number.InRange : Number → Prop
  | natural n => n < 0x10000000000000000
  | negative _ _ | float _ => True

theorem Number.toBinary64_isFinite {n : Number} (h : n.InRange) : n.toBinary64.isFinite = true := by
  cases n with
  | natural n =>
      have hn : n ≤ Nat.pow 2 64 := Nat.le_of_lt h
      exact (Binary64.ofNat_isWithin (by decide) hn).isFinite
  | negative n range =>
      have hn : n.natAbs ≤ Nat.pow 2 63 := by
        have hpow : Nat.pow 2 63 = 0x8000000000000000 := rfl
        omega
      exact (Binary64.ofRatio_isWithin _ (by decide) hn).isFinite
  | float x => rfl

/-- A draft whose numbers are in range. -/
inductive Draft.InRange : Draft → Prop where
  | null : InRange null
  | boolean (b : Bool) : InRange (boolean b)
  | number {n : Number} (h : n.InRange) : InRange (number n)
  | string (s : String) : InRange (string s)
  | unreadable : InRange unreadable
  | array {items : List Draft} (closed : Bool) (h : ∀ item ∈ items, InRange item) :
      InRange (array items closed)
  | object {members : List (Option String × Draft)} (closed : Bool)
      (h : ∀ member ∈ members, InRange member.2) : InRange (object members closed)
  | broken : InRange broken

theorem Draft.InRange.children {d : Draft} (h : d.InRange) :
    ∀ child ∈ d.children, child.InRange := by
  cases h with
  | array closed h => exact h
  | object closed h => exact List.forall_mem_map.mpr h
  | null | boolean b | number h | string s | unreadable | broken => exact List.forall_mem_nil _

/-! ### Tokens -/

def Scalar.InRange : Scalar → Prop
  | number n => n.InRange
  | null | boolean _ | string _ | unreadable => True

def Token.InRange : Token → Prop
  | scalar s => s.InRange
  | _ => True

theorem inRange_floatOf (negative : Bool) (s : Significand) : (floatOf negative s).InRange := by
  unfold floatOf
  split <;> trivial

theorem inRange_wholeOf (negative : Bool) (digits : List Char) :
    (wholeOf negative digits).InRange := by
  unfold wholeOf
  simp only
  split
  · split
    · trivial
    · exact inRange_floatOf _ _
  · split
    · next hn => exact hn
    · exact inRange_floatOf _ _

theorem inRange_of_map_floatOf {α : Type} {negative : Bool} {found : Option α}
    {significand : α → Significand} {after : α → List Char} {s : Scalar} {rest : List Char}
    (h : found.map (fun a => (floatOf negative (significand a), after a)) = some (s, rest)) :
    s.InRange := by
  obtain ⟨a, -, ha⟩ := Option.map_eq_some_iff.mp h
  obtain ⟨rfl, -⟩ := Prod.mk.inj ha
  exact inRange_floatOf _ _

/-- A number is a float if it has a fraction or an exponent. -/
theorem inRange_of_number? {negative : Bool} {cs rest : List Char} {s : Scalar}
    (h : number? negative cs = some (s, rest)) : s.InRange := by
  have hplain : ∀ {number : Scalar} {after : List Char}, number.InRange →
      some (number, after) = some (s, rest) → s.InRange := by
    intro number after hnumber heq
    obtain ⟨rfl, -⟩ := Prod.mk.inj (Option.some.inj heq)
    exact hnumber
  unfold number? at h
  simp only at h
  split at h
  · cases h
  · split at h
    · split at h
      · cases h
      · split at h
        · exact inRange_of_map_floatOf h
        · exact inRange_of_map_floatOf h
        · exact hplain (inRange_floatOf _ _) h
    · split at h
      · exact inRange_of_map_floatOf h
      · exact inRange_of_map_floatOf h
      · exact hplain (inRange_floatOf _ _) h
    · split at h
      · exact inRange_of_map_floatOf h
      · exact inRange_of_map_floatOf h
      · exact hplain (inRange_floatOf _ _) h
    · exact hplain (inRange_wholeOf _ _) h

theorem inRange_of_string? {cs rest : List Char} {s : Scalar}
    (h : string? cs = some (s, rest)) : s.InRange := by
  simp only [string?, Option.bind_eq_bind, Option.bind_eq_some_iff] at h
  obtain ⟨⟨pieces, after⟩, -, hscalar⟩ := h
  split at hscalar
  · obtain ⟨rfl, -⟩ := Prod.mk.inj (Option.some.inj hscalar)
    trivial
  · obtain ⟨rfl, -⟩ := Prod.mk.inj (Option.some.inj hscalar)
    trivial

theorem inRange_scalarOr {found : Option (Scalar × List Char)}
    (h : ∀ s rest, found = some (s, rest) → s.InRange) : (token.scalarOr found).1.InRange := by
  cases found with
  | none => trivial
  | some pair => exact h pair.1 pair.2 rfl

theorem inRange_token (cs : List Char) : (token cs).1.InRange := by
  unfold token
  split
  case h_10 => exact inRange_scalarOr fun _ _ => inRange_of_string?
  case h_11 | h_12 => exact inRange_scalarOr fun _ _ => inRange_of_number?
  all_goals trivial

theorem inRange_of_mem_tokens {text : List Char} : ∀ t ∈ tokens text, t.InRange := by
  suffices hgo : ∀ fuel text, ∀ t ∈ tokens.go fuel text, t.InRange from hgo _ _
  intro fuel
  induction fuel with
  | zero => exact fun _ => List.forall_mem_nil _
  | succ fuel ih =>
      intro text
      unfold tokens.go
      split
      · exact List.forall_mem_nil _
      · have hfirst := inRange_token (text.dropWhile isBlank)
        split
        · exact List.forall_mem_singleton.mpr trivial
        · next t rest _ htoken =>
          rw [htoken] at hfirst
          exact List.forall_mem_cons.mpr ⟨hfirst, ih rest⟩

/-! ### Drafts -/

namespace Draft

/-- A part of a container whose finished parts are in range. -/
def Frame.InRange : Frame → Prop
  | .items done => ∀ d ∈ done, d.InRange
  | .members done _ => ∀ member ∈ done, member.2.InRange

theorem inRange_abandon {frames : List Frame} (hframes : ∀ frame ∈ frames, frame.InRange)
    {inner : Draft} (hinner : inner.InRange) : (abandon inner frames).InRange := by
  induction frames generalizing inner with
  | nil => exact hinner
  | cons frame frames ih =>
      obtain ⟨hframe, hrest⟩ := List.forall_mem_cons.mp hframes
      cases frame with
      | items done =>
          apply ih hrest
          apply InRange.array
          intro d hd
          rcases List.mem_cons.mp (List.mem_reverse.mp hd) with rfl | hdone
          · exact hinner
          · exact hframe d hdone
      | members done name =>
          apply ih hrest
          apply InRange.object
          intro member hmember
          rcases List.mem_cons.mp (List.mem_reverse.mp hmember) with rfl | hdone
          · exact hinner
          · exact hframe member hdone

theorem inRange_breakOff {frames : List Frame} (hframes : ∀ frame ∈ frames, frame.InRange) :
    (breakOff frames).InRange := by
  cases frames with
  | nil => exact .broken
  | cons frame frames =>
      obtain ⟨hframe, hrest⟩ := List.forall_mem_cons.mp hframes
      cases frame with
      | items done =>
          exact inRange_abandon hrest (.array _ fun d hd => hframe d (List.mem_reverse.mp hd))
      | members done name =>
          exact inRange_abandon hrest (.object _ fun m hm => hframe m (List.mem_reverse.mp hm))

theorem inRange_addTo {frame : Frame} (hframe : frame.InRange) {d : Draft} (hd : d.InRange) :
    (addTo d frame).InRange := by
  cases frame with
  | items done => exact List.forall_mem_cons.mpr ⟨hd, hframe⟩
  | members done name => exact List.forall_mem_cons.mpr ⟨hd, hframe⟩

theorem inRange_ofScalar {s : Scalar} (h : s.InRange) : (ofScalar s).InRange := by
  cases s with
  | number n => exact .number h
  | null => exact .null
  | boolean b => exact .boolean b
  | string s => exact .string s
  | unreadable => exact .unreadable

/-- A finished value is in range as a whole text, or goes into the innermost container. -/
theorem inRange_finish {ts : List Token}
    (h : ∀ {frames : List Frame}, (∀ frame ∈ frames, frame.InRange) →
      (assemble frames .separator ts).root.InRange)
    {d : Draft} {frames : List Frame} (hd : d.InRange)
    (hframes : ∀ frame ∈ frames, frame.InRange) : (assemble.finish d frames ts).root.InRange := by
  cases frames with
  | nil =>
      rw [assemble.finish]
      exact hd
  | cons frame frames =>
      obtain ⟨hframe, hrest⟩ := List.forall_mem_cons.mp hframes
      rw [assemble.finish]
      exact h (List.forall_mem_cons.mpr ⟨inRange_addTo hframe hd, hrest⟩)

theorem inRange_assemble {ts : List Token} (hts : ∀ t ∈ ts, t.InRange) {frames : List Frame}
    (hframes : ∀ frame ∈ frames, frame.InRange) (expected : Expected) :
    (assemble frames expected ts).root.InRange := by
  induction ts generalizing frames expected with
  | nil =>
      unfold assemble
      split
      · exact inRange_abandon hframes .broken
      · exact inRange_abandon hframes .broken
      · exact inRange_abandon hframes .broken
      · exact inRange_breakOff hframes
  | cons t ts ih =>
      obtain ⟨ht, hlater⟩ := List.forall_mem_cons.mp hts
      have hfinish : ∀ {d : Draft} {frames : List Frame}, d.InRange →
          (∀ frame ∈ frames, frame.InRange) → (assemble.finish d frames ts).root.InRange :=
        inRange_finish fun hframes => ih hlater hframes .separator
      unfold assemble
      split
      case h_1 | h_2 => exact hfinish (inRange_ofScalar ht) hframes
      -- A container is opened.
      case h_3 | h_4 =>
        have hopened : (Frame.items []).InRange := List.forall_mem_nil _
        exact ih hlater (List.forall_mem_cons.mpr ⟨hopened, hframes⟩) _
      case h_5 | h_6 =>
        have hopened : (Frame.members [] none).InRange := List.forall_mem_nil _
        exact ih hlater (List.forall_mem_cons.mpr ⟨hopened, hframes⟩) _
      -- A container is closed.
      case h_7 | h_16 =>
        obtain ⟨hframe, hrest⟩ := List.forall_mem_cons.mp hframes
        exact hfinish (.array _ fun d hd => hframe d (List.mem_reverse.mp hd)) hrest
      case h_12 | h_17 =>
        obtain ⟨hframe, hrest⟩ := List.forall_mem_cons.mp hframes
        exact hfinish (.object _ fun m hm => hframe m (List.mem_reverse.mp hm)) hrest
      -- A name or a mark leaves what is finished.
      case h_8 | h_9 | h_10 | h_11 =>
        obtain ⟨hframe, hrest⟩ := List.forall_mem_cons.mp hframes
        refine ih hlater (List.forall_mem_cons.mpr ⟨?_, hrest⟩) _
        exact hframe
      case h_13 | h_14 | h_15 => exact ih hlater hframes _
      case h_18 | h_19 | h_20 => exact inRange_abandon hframes .broken
      case h_21 => exact inRange_breakOff hframes

end Draft

/-- The numbers of every text are in range. -/
theorem inRange_draft (text : String) : (draft text).root.InRange :=
  Draft.inRange_assemble inRange_of_mem_tokens (List.forall_mem_nil _) .value

end OrderDesk.Json
