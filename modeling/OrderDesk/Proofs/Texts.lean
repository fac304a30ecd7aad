import Mathlib.Tactic.Common
import OrderDesk.Proofs.Containers

/-! # Texts that spell a value

A text spells a value if it is cut into the tokens of that value, whatever blanks stand between them
and however deep the value is. How the tokens of a text are read goes along its parts, as long as
none of them ends within a token.
-/

namespace OrderDesk.Json

/-- A text that spells a value, and nothing else. -/
def Spells (text : String) (v : Json) : Prop := draft text = ⟨Draft.ofValue v, true⟩

/-! ### Tokens of a value -/

mutual

def tokensOf : Json → List Token
  | null => [.scalar .null]
  | boolean b => [.scalar (.boolean b)]
  | number n => [.scalar (.number n)]
  | string s => [.scalar (.string s)]
  | array items => .openArray :: (tokensOfItems items).tail ++ [.closeArray]
  | object members => .openObject :: (tokensOfMembers members).tail ++ [.closeObject]

/-- The tokens of items, with a comma before each of them. -/
def tokensOfItems : List Json → List Token
  | [] => []
  | item :: items => .comma :: tokensOf item ++ tokensOfItems items

/-- The tokens of members, with a comma before each of them. -/
def tokensOfMembers : List (String × Json) → List Token
  | [] => []
  | member :: members => .comma :: tokensOfMember member ++ tokensOfMembers members

def tokensOfMember : String × Json → List Token
  | (name, value) => .scalar (.string name) :: .colon :: tokensOf value

end

namespace Draft

/-- The tokens of a value are read as that value, whatever comes after them. -/
def Assembles (v : Json) : Prop :=
  ∀ frames rest,
    assemble frames .value (tokensOf v ++ rest) = assemble.finish (ofValue v) frames rest

variable {frames : List Frame} {rest : List Token}

/-- A value may stand where an array may end as well. -/
theorem assemble_valueOrEnd (v : Json) :
    assemble frames .valueOrEnd (tokensOf v ++ rest) =
      assemble frames .value (tokensOf v ++ rest) := by
  cases v <;> simp only [tokensOf, List.cons_append] <;> rw [assemble, assemble]

theorem assemble_items {items : List Json} (h : ∀ item ∈ items, Assembles item)
    (done : List Draft) :
    assemble (.items done :: frames) .separator (tokensOfItems items ++ .closeArray :: rest) =
      assemble.finish (array (done.reverse ++ ofValues items) true) frames rest := by
  induction items generalizing done with
  | nil => rw [tokensOfItems, List.nil_append, assemble, ofValues, List.append_nil]
  | cons item items ih =>
      obtain ⟨hitem, hitems⟩ := List.forall_mem_cons.mp h
      rw [tokensOfItems, List.cons_append, List.cons_append, assemble, List.append_assoc, hitem,
        assemble.finish, addTo, ih hitems, List.reverse_cons, List.append_assoc, ofValues]
      rfl

/-- The tokens of a member are read as that member, where a name may stand. -/
theorem assemble_member {member : String × Json} (h : Assembles member.2)
    {done : List (Option String × Draft)} {name : Option String} :
    assemble (.members done name :: frames) .name (tokensOfMember member ++ rest) =
      assemble (.members (ofMember member :: done) none :: frames) .separator rest := by
  obtain ⟨key, v⟩ := member
  rw [tokensOfMember, List.cons_append, assemble, List.cons_append, assemble, h, assemble.finish,
    addTo, ofMember]

theorem assemble_nameOrEnd (member : String × Json) {done : List (Option String × Draft)}
    {name : Option String} :
    assemble (.members done name :: frames) .nameOrEnd (tokensOfMember member ++ rest) =
      assemble (.members done name :: frames) .name (tokensOfMember member ++ rest) := by
  rw [tokensOfMember, List.cons_append, assemble, assemble]

theorem assemble_members {members : List (String × Json)}
    (h : ∀ member ∈ members, Assembles member.2) (done : List (Option String × Draft))
    (name : Option String) :
    assemble (.members done name :: frames) .separator
        (tokensOfMembers members ++ .closeObject :: rest) =
      assemble.finish (object (done.reverse ++ ofMembers members) true) frames rest := by
  induction members generalizing done name with
  | nil => rw [tokensOfMembers, List.nil_append, assemble, ofMembers, List.append_nil]
  | cons member members ih =>
      obtain ⟨hmember, hmembers⟩ := List.forall_mem_cons.mp h
      rw [tokensOfMembers, List.cons_append, List.cons_append, assemble, List.append_assoc,
        assemble_member hmember, ih hmembers, List.reverse_cons, List.append_assoc, ofMembers]
      rfl

theorem assembles (v : Json) : Assembles v := by
  induction v using Json.inductionOn with
  | null | boolean b | number n | string s =>
      intro frames rest
      rw [tokensOf, List.cons_append, assemble]
      rfl
  | array items ih =>
      intro frames rest
      rw [tokensOf, List.cons_append, List.cons_append, assemble]
      cases items with
      | nil => rw [tokensOfItems, List.tail_nil, List.nil_append, List.cons_append, assemble]; rfl
      | cons item items =>
          obtain ⟨hitem, hitems⟩ := List.forall_mem_cons.mp ih
          rw [tokensOfItems, List.cons_append, List.tail_cons, List.append_assoc, List.append_assoc,
            assemble_valueOrEnd, hitem, assemble.finish, addTo]
          exact assemble_items hitems [ofValue item]
  | object members ih =>
      intro frames rest
      rw [tokensOf, List.cons_append, List.cons_append, assemble]
      cases members with
      | nil => rw [tokensOfMembers, List.tail_nil, List.nil_append, List.cons_append, assemble]; rfl
      | cons member members =>
          obtain ⟨hmember, hmembers⟩ := List.forall_mem_cons.mp ih
          rw [tokensOfMembers, List.cons_append, List.tail_cons, List.append_assoc,
            List.append_assoc, assemble_nameOrEnd, assemble_member hmember]
          exact assemble_members hmembers [ofMember member] none

end Draft

/-- A text that is cut into the tokens of a value spells it. -/
theorem spells_of_tokens {text : String} {v : Json} (h : tokens text.toList = tokensOf v) :
    Spells text v := by
  have hassembled := Draft.assembles v [] []
  rw [List.append_nil] at hassembled
  rw [Spells, draft, h, hassembled, Draft.assemble.finish]
  rfl

/-! ### Parts of a text -/

/-- A part of a text is cut into some tokens, whatever comes after it. -/
structure Reads (part : List Char) (ts : List Token) : Prop where
  length_le : ts.length ≤ part.length
  go_append : ∀ fuel rest,
    tokens.go (fuel + ts.length) (part ++ rest) = ts ++ tokens.go fuel rest

namespace Reads

variable {part other : List Char} {ts us : List Token}

theorem append (h : Reads part ts) (h' : Reads other us) : Reads (part ++ other) (ts ++ us) where
  length_le := by
    rw [List.length_append, List.length_append]
    exact Nat.add_le_add h.length_le h'.length_le
  go_append fuel rest := by
    rw [List.length_append, Nat.add_comm ts.length, ← Nat.add_assoc, List.append_assoc,
      h.go_append, h'.go_append, List.append_assoc]

theorem tokens_eq (h : Reads part ts) : tokens part = ts := by
  obtain ⟨fuel, hfuel⟩ := Nat.exists_eq_add_of_le h.length_le
  have hparts := h.go_append fuel []
  have hend : tokens.go fuel [] = [] := by cases fuel <;> rfl
  rw [List.append_nil, hend, List.append_nil] at hparts
  rw [tokens, hfuel, Nat.add_comm, hparts]

theorem openArray : Reads ['['] [.openArray] := ⟨Nat.le_refl _, fun _ _ => rfl⟩

theorem closeArray : Reads [']'] [.closeArray] := ⟨Nat.le_refl _, fun _ _ => rfl⟩

/-- Brackets around the text of a value are those of a list of it. -/
theorem wrap {v : Json} (h : Reads part (tokensOf v)) :
    Reads ('[' :: (part ++ [']'])) (tokensOf (.array [v])) := by
  have hwrapped := openArray.append (h.append closeArray)
  simpa [tokensOf, tokensOfItems] using hwrapped

end Reads

/-! ### Arrays one inside the other -/

/-- Empty but for the arrays inside it, of which there are so many. -/
def nested : Nat → Json
  | 0 => .array []
  | n + 1 => .array [nested n]

theorem depth_nested (n : Nat) : (nested n).depth = n + 1 := by
  induction n with
  | zero => rfl
  | succ n ih => rw [nested, depth_array_singleton, ih]

theorem wellFormed_nested (n : Nat) : (nested n).WellFormed := by
  induction n with
  | zero => exact .array (List.forall_mem_nil _)
  | succ n ih => exact .array (List.forall_mem_singleton.mpr ih)

theorem reads_nested (n : Nat) :
    Reads (List.replicate (n + 1) '[' ++ List.replicate (n + 1) ']') (tokensOf (nested n)) := by
  induction n with
  | zero => exact Reads.openArray.append Reads.closeArray
  | succ n ih =>
      have htext : List.replicate (n + 2) '[' ++ List.replicate (n + 2) ']' =
          '[' :: (List.replicate (n + 1) '[' ++ List.replicate (n + 1) ']' ++ [']']) := by
        have hclose : List.replicate (n + 2) ']' = List.replicate (n + 1) ']' ++ [']'] :=
          List.replicate_succ'
        rw [hclose, List.replicate_succ, List.cons_append, List.append_assoc]
      rw [htext]
      exact ih.wrap

end OrderDesk.Json
