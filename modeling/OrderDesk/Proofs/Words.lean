import Mathlib.Data.List.Induction
import Mathlib.Tactic.Common
import OrderDesk.Text.Words

/-! # Words as runs of letters and digits

A character between two texts that is neither letter nor digit separates their words. So the words
of a text are its longest runs of letters and digits, and the terms are those runs in lower case.
-/

namespace OrderDesk.Text

/-- A run of letters and digits that nothing prolongs on either side. -/
structure IsRun (text run : List Char) : Prop where
  ne_nil : run ≠ []
  all_alphanumeric : ∀ c ∈ run, isAlphanumeric c = true
  bounded : ∃ before after, text = before ++ run ++ after ∧
    (∀ c ∈ before.getLast?, isAlphanumeric c = false) ∧
    ∀ c ∈ after.head?, isAlphanumeric c = false

/-- The lower case of such a run. -/
def IsTerm (text : String) (term : List Char) : Prop :=
  ∃ run, IsRun text.toList run ∧ lowercase run = term

/-! ### Words between separators -/

theorem words_cons_of_not {c : Char} (hc : isAlphanumeric c = false) (cs : List Char) :
    words (c :: cs) = words cs := by
  cases cs with
  | nil => simp [words, hc]
  | cons d cs => simp [words, hc]

theorem words_cons_cons {c d : Char} (hc : isAlphanumeric c = true)
    (hd : isAlphanumeric d = true) (cs : List Char) :
    ∃ word rest, words (d :: cs) = word :: rest ∧ words (c :: d :: cs) = (c :: word) :: rest := by
  have hfirst : words (d :: cs) ≠ [] := by
    cases cs with
    | nil => simp [words, hd]
    | cons e cs =>
        rw [words, if_pos hd]
        split
        · split <;> simp
        · simp
  obtain ⟨word, rest, hwords⟩ := List.exists_cons_of_ne_nil hfirst
  refine ⟨word, rest, hwords, ?_⟩
  rw [words, if_pos hc, hwords]
  exact if_pos hd

theorem words_cons_of_next {c : Char} (hc : isAlphanumeric c = true) {cs : List Char}
    (hcs : ∀ d ∈ cs.head?, isAlphanumeric d = false) : words (c :: cs) = [c] :: words cs := by
  cases cs with
  | nil => simp [words, hc]
  | cons d cs =>
      rw [words, if_pos hc]
      simp only [hcs d rfl, Bool.false_eq_true, if_false]

/-- The words on both sides of a separator. -/
theorem words_append_cons {c : Char} (hc : isAlphanumeric c = false) (xs ys : List Char) :
    words (xs ++ c :: ys) = words xs ++ words ys := by
  induction xs with
  | nil => exact words_cons_of_not hc ys
  | cons x xs ih =>
      cases hx : isAlphanumeric x with
      | false => rw [List.cons_append, words_cons_of_not hx, words_cons_of_not hx, ih]
      | true =>
          cases xs with
          | nil =>
              -- The separator ends the word that begins here.
              have hnext : ∀ d ∈ (c :: ys).head?, isAlphanumeric d = false := by
                rintro d ⟨⟩
                exact hc
              rw [List.cons_append, List.nil_append, words_cons_of_next hx hnext,
                words_cons_of_next hx (by simp), words_cons_of_not hc]
              rfl
          | cons y xs =>
              cases hy : isAlphanumeric y with
              | false =>
                  have hnext : ∀ zs : List Char, ∀ d ∈ (y :: zs).head?,
                      isAlphanumeric d = false := by
                    rintro zs d ⟨⟩
                    exact hy
                  rw [List.cons_append, List.cons_append, words_cons_of_next hx (hnext _),
                    words_cons_of_next hx (hnext _), ← List.cons_append, ih, List.cons_append]
              | true =>
                  obtain ⟨word, rest, hword, hlonger⟩ := words_cons_cons hx hy xs
                  obtain ⟨word', rest', hword', hlonger'⟩ :=
                    words_cons_cons hx hy (xs ++ c :: ys)
                  rw [List.cons_append, hword', hword, List.cons_append] at ih
                  obtain ⟨rfl, rfl⟩ := List.cons.inj ih
                  rw [List.cons_append, List.cons_append, hlonger', hlonger, List.cons_append]

/-- A text of letters and digits is one word. -/
theorem words_of_forall {run : List Char} (hne : run ≠ [])
    (h : ∀ c ∈ run, isAlphanumeric c = true) : words run = [run] := by
  induction run with
  | nil => exact absurd rfl hne
  | cons c run ih =>
      obtain ⟨hc, hrun⟩ := List.forall_mem_cons.mp h
      cases run with
      | nil => exact words_cons_of_next hc (by simp)
      | cons d run =>
          obtain ⟨word, rest, hword, hlonger⟩ := words_cons_cons hc (hrun d List.mem_cons_self) run
          rw [ih (by simp) hrun] at hword
          obtain ⟨rfl, rfl⟩ := List.cons.inj hword
          exact hlonger

/-- Only a text without letters and digits has no words. -/
theorem words_eq_nil_iff {cs : List Char} :
    words cs = [] ↔ ∀ c ∈ cs, isAlphanumeric c = false := by
  induction cs with
  | nil => simp [words]
  | cons c cs ih =>
      rw [List.forall_mem_cons]
      cases hc : isAlphanumeric c with
      | false => rw [words_cons_of_not hc, ih, eq_self, true_and]
      | true =>
          refine iff_of_false ?_ fun h => Bool.noConfusion h.1
          cases cs with
          | nil =>
              rw [words_cons_of_next hc (by simp)]
              exact List.cons_ne_nil _ _
          | cons d cs =>
              cases hd : isAlphanumeric d with
              | false =>
                  rw [words_cons_of_next hc (by simp [hd])]
                  exact List.cons_ne_nil _ _
              | true =>
                  obtain ⟨word, rest, -, hlonger⟩ := words_cons_cons hc hd cs
                  rw [hlonger]
                  exact List.cons_ne_nil _ _

/-! ### Words and runs -/

theorem IsRun.append_cons {c : Char} {ys run : List Char} (h : IsRun ys run)
    (hc : isAlphanumeric c = false) (xs : List Char) : IsRun (xs ++ c :: ys) run := by
  obtain ⟨before, after, rfl, hbefore, hafter⟩ := h.bounded
  refine ⟨h.ne_nil, h.all_alphanumeric, xs ++ c :: before, after, by simp, ?_, hafter⟩
  intro d hd
  rw [List.getLast?_append, List.getLast?_cons] at hd
  cases hlast : before.getLast? with
  | none =>
      rw [hlast] at hd
      obtain rfl : c = d := by simpa using hd
      exact hc
  | some e =>
      rw [hlast] at hd
      obtain rfl : e = d := by simpa using hd
      exact hbefore e hlast

theorem isRun_of_mem_words {text run : List Char} (h : run ∈ words text) : IsRun text run := by
  -- What precedes the rest of the text is a run that may go on.
  suffices hrest : ∀ xs : List Char, (∀ c ∈ xs, isAlphanumeric c = true) →
      run ∈ words (xs ++ text) → IsRun (xs ++ text) run from
    hrest [] (by simp) h
  clear h
  induction text with
  | nil =>
      intro xs hxs hrun
      rw [List.append_nil] at hrun ⊢
      cases xs with
      | nil => cases hrun
      | cons x xs =>
          rw [words_of_forall (by simp) hxs, List.mem_singleton] at hrun
          subst hrun
          exact ⟨by simp, hxs, [], [], by simp, by simp, by simp⟩
  | cons c cs ih =>
      intro xs hxs hrun
      cases hc : isAlphanumeric c with
      | true =>
          have hlonger : ∀ d ∈ xs ++ [c], isAlphanumeric d = true := by
            intro d hd
            rcases List.mem_append.mp hd with hmem | hlast
            · exact hxs d hmem
            · rw [List.mem_singleton.mp hlast]
              exact hc
          rw [List.append_cons] at hrun ⊢
          exact ih (xs ++ [c]) hlonger hrun
      | false =>
          rw [words_append_cons hc, List.mem_append] at hrun
          rcases hrun with hfirst | hlater
          · cases xs with
            | nil => cases hfirst
            | cons x xs =>
                rw [words_of_forall (by simp) hxs, List.mem_singleton] at hfirst
                subst hfirst
                refine ⟨by simp, hxs, [], c :: cs, by simp, by simp, ?_⟩
                rintro d ⟨⟩
                exact hc
          · exact (ih [] (by simp) hlater).append_cons hc xs

theorem mem_words_of_isRun {text run : List Char} (h : IsRun text run) : run ∈ words text := by
  obtain ⟨before, after, rfl, hbefore, hafter⟩ := h.bounded
  have hrun := words_of_forall h.ne_nil h.all_alphanumeric
  have hfront : run ∈ words (run ++ after) := by
    cases after with
    | nil => rw [List.append_nil, hrun, List.mem_singleton]
    | cons c after =>
        rw [words_append_cons (hafter c rfl), hrun]
        exact List.mem_append_left _ List.mem_cons_self
  cases before using List.reverseRecOn with
  | nil => exact hfront
  | append_singleton before c =>
      have hc : isAlphanumeric c = false := hbefore c (by simp)
      rw [List.append_assoc, ← List.append_cons, words_append_cons hc]
      exact List.mem_append_right _ hfront

theorem mem_words_iff {text run : List Char} : run ∈ words text ↔ IsRun text run :=
  ⟨isRun_of_mem_words, mem_words_of_isRun⟩

/-- The terms on both sides of a separator. -/
theorem terms_append_separator {c : Char} (hc : isAlphanumeric c = false) (a b : String) :
    terms (a ++ String.singleton c ++ b) = terms a ++ terms b := by
  have hlist : (a ++ String.singleton c ++ b).toList = a.toList ++ c :: b.toList := by
    simp
  rw [terms, hlist, words_append_cons hc, List.map_append]
  rfl

theorem mem_terms_iff {text : String} {term : List Char} :
    term ∈ terms text ↔ IsTerm text term := by
  rw [terms, List.mem_map]
  exact exists_congr fun run => and_congr_left fun _ => mem_words_iff

/-- A text has terms if it has a letter or a digit. -/
theorem exists_isTerm_iff {text : String} :
    (∃ term, IsTerm text term) ↔ ∃ c ∈ text.toList, isAlphanumeric c = true := by
  rw [← not_iff_not]
  simp only [← mem_terms_iff, not_exists, not_and, Bool.not_eq_true]
  rw [← List.eq_nil_iff_forall_not_mem, terms, List.map_eq_nil_iff, words_eq_nil_iff]

end OrderDesk.Text
