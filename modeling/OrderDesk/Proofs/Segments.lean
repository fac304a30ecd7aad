import Mathlib.Tactic.Common
import OrderDesk.Url.Path

/-! # Names as segments of a path

Percent encoding is undone by decoding, and it leaves no slash where slashes are not plain. So a
name that is added to a path becomes one segment that spells it, unless the name itself means going
on or back or has characters that are ignored.
-/

namespace OrderDesk

namespace Http

/-! ### Decoding what was encoded -/

theorem percentDecode_cons_of_ne {c : Char} (hc : c ≠ '%') (cs : List Char) :
    percentDecode (c :: cs) = utf8 [c] ++ percentDecode cs := by
  rw [percentDecode]
  intro a b rest hpercent
  exact absurd hpercent hc

theorem utf8_cons (c : Char) (cs : List Char) : utf8 (c :: cs) = utf8 [c] ++ utf8 cs := by
  simp only [utf8, List.flatMap_cons, List.flatMap_nil, List.append_nil]

theorem percentEncode_cons (isPlain : Char → Bool) (c : Char) (cs : List Char) :
    percentEncode isPlain (c :: cs) =
      (if isPlain c then [c] else (utf8 [c]).flatMap percentByte) ++ percentEncode isPlain cs :=
  List.flatMap_cons

theorem percentDecode_percentByte_append (b : UInt8) (cs : List Char) :
    percentDecode (percentByte b ++ cs) = b :: percentDecode cs := by
  have hbound : b.toNat < 256 := b.toNat_lt
  have hhigh := Text.hexValue?_upperHexDigit ⟨b.toNat / 16, by omega⟩
  have hlow := Text.hexValue?_upperHexDigit ⟨b.toNat % 16, by omega⟩
  have hvalue : 16 * (b.toNat / 16) + b.toNat % 16 = b.toNat := Nat.div_add_mod _ _
  simp only [percentByte, List.cons_append, List.nil_append, percentDecode, hhigh, hlow, hvalue,
    UInt8.ofNat_toNat]

theorem percentDecode_percentBytes_append (bs : List UInt8) (cs : List Char) :
    percentDecode (bs.flatMap percentByte ++ cs) = bs ++ percentDecode cs := by
  induction bs with
  | nil => rfl
  | cons b bs ih =>
      rw [List.flatMap_cons, List.append_assoc, percentDecode_percentByte_append, ih,
        List.cons_append]

/-- Encoding that also encodes percent signs is undone. -/
theorem percentDecode_percentEncode {isPlain : Char → Bool} (hpercent : isPlain '%' = false)
    (cs : List Char) : percentDecode (percentEncode isPlain cs) = utf8 cs := by
  induction cs with
  | nil => rfl
  | cons c cs ih =>
      rw [percentEncode_cons, utf8_cons c cs]
      cases hc : isPlain c with
      | false => rw [if_neg (by simp), percentDecode_percentBytes_append, ih]
      | true =>
          have hne : c ≠ '%' := by
            rintro rfl
            rw [hpercent] at hc
            exact Bool.false_ne_true hc
          rw [if_pos rfl, List.singleton_append, percentDecode_cons_of_ne hne, ih]

theorem percentText?_of_percentDecode {cs text : List Char} (h : percentDecode cs = utf8 text) :
    percentText? cs = some (String.ofList text) := by
  have hbytes : (⟨(percentDecode cs).toArray⟩ : ByteArray) = text.utf8Encode := by
    apply ByteArray.ext
    rw [h, List.utf8Encode, List.data_toByteArray]
    rfl
  rw [percentText?, hbytes, String.fromUTF8?, dif_pos ByteArray.isValidUTF8_utf8Encode]
  rfl

theorem percentText?_percentEncode {isPlain : Char → Bool} (hpercent : isPlain '%' = false)
    (cs : List Char) : percentText? (percentEncode isPlain cs) = some (String.ofList cs) :=
  percentText?_of_percentDecode (percentDecode_percentEncode hpercent cs)

theorem slash_not_mem_percentByte (b : UInt8) : '/' ∉ percentByte b := by
  have hdigit : ∀ n : Fin 16, Text.upperHexDigit n.val ≠ '/' := by decide
  have hbound : b.toNat < 256 := b.toNat_lt
  have hhigh := hdigit ⟨b.toNat / 16, by omega⟩
  have hlow := hdigit ⟨b.toNat % 16, by omega⟩
  simp only [percentByte, List.mem_cons, List.not_mem_nil, or_false, not_or]
  exact ⟨by decide, hhigh.symm, hlow.symm⟩

theorem slash_not_mem_percentEncode {isPlain : Char → Bool} (hslash : isPlain '/' = false)
    (cs : List Char) : '/' ∉ percentEncode isPlain cs := by
  intro hmem
  obtain ⟨c, -, hc⟩ := List.mem_flatMap.mp hmem
  split at hc
  · next hplain =>
      rw [← List.mem_singleton.mp hc, hslash] at hplain
      exact Bool.false_ne_true hplain
  · obtain ⟨b, -, hb⟩ := List.mem_flatMap.mp hc
    exact slash_not_mem_percentByte b hb

theorem percentEncode_of_forall {isPlain : Char → Bool} {cs : List Char}
    (h : ∀ c ∈ cs, isPlain c = true) : percentEncode isPlain cs = cs := by
  induction cs with
  | nil => rfl
  | cons c cs ih =>
      obtain ⟨hc, hcs⟩ := List.forall_mem_cons.mp h
      rw [percentEncode_cons, if_pos hc, ih hcs, List.singleton_append]

end Http

namespace Url

/-! ### Segments that spell a name -/

/-- A single segment of a path that stands for a name. -/
structure Spells (segment : List Char) (name : String) : Prop where
  single : '/' ∉ segment
  decoded : Http.percentText? segment = some name

/-- A name that is neither one dot nor two and has no characters that are ignored. -/
def IsWhole (name : String) : Prop :=
  name ≠ "." ∧ name ≠ ".." ∧ ∀ c ∈ name.toList, isIgnored c = false

instance (name : String) : Decidable (IsWhole name) :=
  haveI : Decidable (∀ c ∈ name.toList, isIgnored c = false) := List.decidableBAll _ _
  inferInstanceAs (Decidable (_ ∧ _ ∧ _))

theorem isSegmentChar_percent (m : Manner) : isSegmentChar m '%' = false := by
  simp [isSegmentChar]

theorem isSegmentChar_slash (m : Manner) : isSegmentChar m '/' = false := by
  simp [isSegmentChar, isSlash]

theorem spells_percentEncode (m : Manner) (cs : List Char) :
    Spells (Http.percentEncode (isSegmentChar m) cs) (String.ofList cs) :=
  ⟨Http.slash_not_mem_percentEncode (isSegmentChar_slash m) cs,
    Http.percentText?_percentEncode (isSegmentChar_percent m) cs⟩

/-- The encoding of a name spells it. -/
theorem spells_encoded (m : Manner) (name : String) :
    Spells (Http.percentEncode (isSegmentChar m) name.toList) name := by
  have hspells := spells_percentEncode m name.toList
  rwa [String.ofList_toList] at hspells

/-- A segment stands for one name. -/
theorem Spells.unique {segment : List Char} {name other : String} (h : Spells segment name)
    (hother : Spells segment other) : name = other :=
  Option.some.inj (h.decoded.symm.trans hother.decoded)

theorem lastSegment_append {segment : List Char} (h : '/' ∉ segment) (path : List Char) :
    lastSegment (path ++ '/' :: segment ++ ['/']) = segment := by
  have hall : ∀ c ∈ segment.reverse, decide (c ≠ '/') = true := by
    intro c hc
    rw [decide_eq_true_eq]
    rintro rfl
    exact h (List.mem_reverse.mp hc)
  rw [lastSegment, List.dropLast_concat, List.reverse_append, List.reverse_cons,
    List.append_assoc, List.takeWhile_append_of_pos hall]
  simp

/-- Two paths that are the same end in the same segment. -/
theorem eq_of_append_segment {path path' segment segment' : List Char} (h : '/' ∉ segment)
    (h' : '/' ∉ segment') (heq : path ++ '/' :: segment = path' ++ '/' :: segment') :
    segment = segment' := by
  rw [← lastSegment_append h path, heq, lastSegment_append h' path']

/-! ### Dots -/

/-- The texts that have a given text as their lower case. -/
def spellings : List Char → List (List Char)
  | [] => [[]]
  | c :: cs => (spellings cs).flatMap fun rest => [c :: rest, c.toUpper :: rest]

theorem eq_toLower_or (c : Char) : c = c.toLower ∨ c = c.toLower.toUpper := by
  by_cases hupper : c.val ≥ 'A'.val ∧ c.val ≤ 'Z'.val
  · right
    have hletters : ∀ n : Fin 26,
        Char.ofNat (65 + n) = (Char.ofNat (65 + n)).toLower.toUpper := by decide
    have hbounds : 65 ≤ c.toNat ∧ c.toNat ≤ 90 := hupper
    have hletter := hletters ⟨c.toNat - 65, by omega⟩
    have hcode : 65 + (c.toNat - 65) = c.toNat := by omega
    rwa [hcode, Char.ofNat_toNat] at hletter
  · left
    have hsame : c.toLower = c := dif_neg hupper
    exact hsame.symm

theorem mem_spellings (cs : List Char) : cs ∈ spellings (cs.map Char.toLower) := by
  induction cs with
  | nil => exact List.mem_singleton_self _
  | cons c cs ih =>
      apply List.mem_flatMap.mpr
      refine ⟨cs, ih, ?_⟩
      obtain hlower | hupper := eq_toLower_or c
      · rw [← hlower]
        exact List.mem_cons_self
      · rw [← hupper]
        exact List.mem_cons_of_mem _ List.mem_cons_self

/-- A segment with one of some forms stands for a text, if all spellings of the forms do. -/
theorem percentText?_of_forms {forms : List String} {text : List Char}
    (hforms : ∀ form ∈ forms, ∀ cs ∈ spellings form.toList,
      Http.percentDecode cs = Http.utf8 text) {segment : List Char}
    (h : String.ofList (segment.map Char.toLower) ∈ forms) :
    Http.percentText? segment = some (String.ofList text) := by
  have hmem := mem_spellings segment
  have hdecode := hforms _ h segment
  rw [String.toList_ofList] at hdecode
  exact Http.percentText?_of_percentDecode (hdecode hmem)

theorem percentText?_of_isSingleDot {segment : List Char} (h : isSingleDot segment = true) :
    Http.percentText? segment = some "." := by
  have hforms : ∀ form ∈ [".", "%2e"], ∀ cs ∈ spellings form.toList,
      Http.percentDecode cs = Http.utf8 ['.'] := by decide
  exact percentText?_of_forms hforms (of_decide_eq_true h)

theorem percentText?_of_isDoubleDot {segment : List Char} (h : isDoubleDot segment = true) :
    Http.percentText? segment = some ".." := by
  have hforms : ∀ form ∈ ["..", ".%2e", "%2e.", "%2e%2e"], ∀ cs ∈ spellings form.toList,
      Http.percentDecode cs = Http.utf8 ['.', '.'] := by decide +kernel
  exact percentText?_of_forms hforms (of_decide_eq_true h)

/-- Going back stays where it is or shortens the path. -/
theorem parent_eq_or_length_lt {path : List Char} (hne : path ≠ []) :
    parent path = path ∨ (parent path).length < path.length := by
  rw [parent]
  split
  · exact .inl rfl
  · right
    have hpos := List.length_pos_iff.mpr hne
    rw [List.length_take, List.length_dropLast]
    omega

/-! ### Adding a segment -/

variable {m : Manner}

/-- A path without the slash that is all there is of it. -/
def stem (path : List Char) : List Char := if path = ['/'] then [] else path

theorem stem_append_slash (path : List Char) :
    (if path = ['/'] then path else path ++ ['/']) = stem path ++ ['/'] := by
  rw [stem]
  split
  · next h => rw [h, List.nil_append]
  · rfl

theorem enter_of_ne_file (hm : m ≠ .file) (path segment : List Char) :
    enter m path segment =
      if isSingleDot segment then path
      else if isDoubleDot segment then parent path
      else path ++ segment := by
  have hfirst : firstSegment m segment = segment := by simp [firstSegment, hm]
  rw [enter, hfirst, ite_self]

theorem addSegment_eq (hm : m ≠ .file) {name : String} (hone : name ≠ ".") (htwo : name ≠ "..")
    (path : List Char) :
    addSegment m path name = enter m (stem path ++ ['/'])
      (Http.percentEncode (isSegmentChar m) (name.toList.filter (!isIgnored ·))) := by
  rw [addSegment, if_neg (by simp [hone, htwo]), settled, if_neg hm]
  simp only [stem_append_slash]

/-- A whole name becomes one segment behind the path. -/
theorem addSegment_of_isWhole (hm : m ≠ .file) {name : String} (h : IsWhole name)
    (path : List Char) :
    addSegment m path name =
      stem path ++ '/' :: Http.percentEncode (isSegmentChar m) name.toList := by
  obtain ⟨hone, htwo, hkept⟩ := h
  have hall : name.toList.filter (!isIgnored ·) = name.toList := by
    apply List.filter_eq_self.mpr
    intro c hc
    rw [hkept c hc, Bool.not_false]
  have hspells := spells_encoded m name
  rw [addSegment_eq hm hone htwo, hall, enter_of_ne_file hm]
  rw [if_neg, if_neg, List.append_assoc, List.singleton_append]
  · intro hdots
    exact htwo (Option.some.inj (hspells.decoded.symm.trans (percentText?_of_isDoubleDot hdots)))
  · intro hdot
    exact hone (Option.some.inj (hspells.decoded.symm.trans (percentText?_of_isSingleDot hdot)))

/-- Whole names are the only ones that become a segment of their own. -/
theorem addSegment_spells_iff (hm : m ≠ .file) {path : List Char} (hpath : path ≠ ['/'])
    (name : String) :
    (∃ segment, addSegment m path name = path ++ '/' :: segment ∧ Spells segment name) ↔
      IsWhole name := by
  have hstem : stem path = path := if_neg hpath
  constructor
  · rintro ⟨segment, hadd, hspells⟩
    have hempty : segment = [] → IsWhole name := by
      rintro rfl
      have hname : "" = name := Option.some.inj hspells.decoded
      rw [← hname]
      decide
    by_cases hdots : name = "." ∨ name = ".."
    · have hsame : addSegment m path name = path := by
        rw [addSegment, if_pos (by simpa using hdots)]
      rw [hsame] at hadd
      have hlength := congrArg List.length hadd
      rw [List.length_append, List.length_cons] at hlength
      omega
    · obtain ⟨hone, htwo⟩ := not_or.mp hdots
      rw [addSegment_eq hm hone htwo, enter_of_ne_file hm, hstem] at hadd
      split at hadd
      · -- What is left of the name is one dot, which leads to the path and a slash.
        exact hempty (List.cons.inj (List.append_cancel_left hadd)).2.symm
      · split at hadd
        · have hne : path ++ ['/'] ≠ [] := by simp
          obtain hsame | hshorter := parent_eq_or_length_lt hne
          · rw [hsame] at hadd
            exact hempty (List.cons.inj (List.append_cancel_left hadd)).2.symm
          · rw [hadd] at hshorter
            simp only [List.length_append, List.length_cons, List.length_nil] at hshorter
            omega
        · rw [List.append_assoc, List.singleton_append] at hadd
          have hsegment := (List.cons.inj (List.append_cancel_left hadd)).2
          rw [← hsegment] at hspells
          have hname := (spells_percentEncode m _).unique hspells
          refine ⟨hone, htwo, ?_⟩
          intro c hc
          rw [← hname, String.toList_ofList] at hc
          simpa using (List.mem_filter.mp hc).2
  · intro h
    refine ⟨Http.percentEncode (isSegmentChar m) name.toList, ?_, spells_encoded m name⟩
    rw [addSegment_of_isWhole hm h, hstem]

/-! ### Extending an address -/

/-- The path of an address without a slash at its end. -/
def trunk (u : Url) : List Char := stem (u.extend []).path.toList

theorem path_extend_concat (u : Url) (names : List String) (name : String) :
    (u.extend (names ++ [name])).path.toList =
      addSegment (manner u.scheme) (u.extend names).path.toList name := by
  simp only [extend, String.toList_ofList, List.foldl_append, List.foldl_cons, List.foldl_nil]

end Url

end OrderDesk
