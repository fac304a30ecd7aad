import OrderDesk.Text.Basic

/-!
# YAML values

The tree of a YAML document. A scalar is a text, and it matters whether it was written between
quotes: only a plain one can be a number or a truth value, and an empty plain one stands for
nothing at all.

Values are written in one line, between brackets. A quoted scalar is written in printable ASCII
characters. Where a text, a number, a flag, a list or a record is wanted, any scalar is a text. A
number and a flag have to be plain, and nothing at all is an empty list or record.
-/

namespace OrderDesk

inductive Yaml where
  | scalar (plain : Bool) (text : String)
  | sequence (items : List Yaml)
  | mapping (entries : List (Yaml × Yaml))

namespace Yaml

/-- What stands where nothing is written. -/
def nothing : Yaml := scalar true ""

instance : Inhabited Yaml := ⟨nothing⟩

/-! ### Writing -/

/-- A code point in eight digits. -/
def codeText (n : Nat) : List Char :=
  (List.range 8).map fun i => Text.upperHexDigit (n / Nat.pow 16 (7 - i) % 16)

/-- A character between double quotes. -/
def quotedChar (c : Char) : List Char :=
  if c = '"' || c = '\\' then ['\\', c]
  else if ' ' ≤ c && c ≤ '~' then [c]
  else '\\' :: 'U' :: codeText c.toNat

def quotedText (s : String) : String :=
  String.ofList ('"' :: s.toList.flatMap quotedChar ++ ['"'])

mutual

def write : Yaml → String
  | .scalar true text => text
  | .scalar false text => quotedText text
  | .sequence items => "[" ++ ", ".intercalate (writeItems items) ++ "]"
  | .mapping entries => "\x7b" ++ ", ".intercalate (writeEntries entries) ++ "\x7d"

def writeItems : List Yaml → List String
  | [] => []
  | item :: items => item.write :: writeItems items

def writeEntries : List (Yaml × Yaml) → List String
  | [] => []
  | (key, value) :: entries => (key.write ++ ": " ++ value.write) :: writeEntries entries

end

/-! ### Texts and flags -/

def text? : Yaml → Option String
  | .scalar _ text => some text
  | _ => none

def flag? : Yaml → Option Bool
  | .scalar true text =>
    if text ∈ ["true", "True", "TRUE"] then some true
    else if text ∈ ["false", "False", "FALSE"] then some false
    else none
  | _ => none

/-! ### Numbers -/

/-- The value of digits in a base; there has to be one. -/
def digits? (base : Nat) (cs : List Char) : Option Nat :=
  if cs.isEmpty then none
  else cs.foldlM (fun n c => do
    let d ← Text.hexValue? c
    if d < base then some (base * n + d) else none) 0

/-- Whether a zero stands before further digits, which makes them a text. -/
def hasIdleZero : List Char → Bool
  | '0' :: c :: cs => (c :: cs).all Char.isDigit
  | _ => false

/-- A number: in decimal, or behind a mark in another base. -/
def unsigned? : List Char → Option Nat
  | '0' :: 'x' :: cs => digits? 16 cs
  | '0' :: 'o' :: cs => digits? 8 cs
  | '0' :: 'b' :: cs => digits? 2 cs
  | cs => if hasIdleZero cs then none else digits? 10 cs

/-- A number up to a bound; it may have a plus sign. -/
def natural? (bound : Nat) : Yaml → Option Nat
  | .scalar true text =>
    let n? := match text.toList with
      | '+' :: cs => unsigned? cs
      | cs => unsigned? cs
    n?.filter (· ≤ bound)
  | _ => none

/-! ### Collections -/

def list? {α : Type} (read : Yaml → Option α) : Yaml → Option (List α)
  | .sequence items => items.mapM read
  | .scalar true "" => some []
  | _ => none

/-- The entries of a mapping, all of whose keys are texts. -/
def entries? : Yaml → Option (List (String × Yaml))
  | .mapping entries => entries.mapM fun (key, value) => key.text?.map (·, value)
  | .scalar true "" => some []
  | _ => none

/-- A part of a record: the key that it stands under, and what becomes of the record with it. -/
structure Part (ρ : Type) where
  key : String
  put : Yaml → ρ → Option ρ

def Part.of {ρ α : Type} (key : String) (read : Yaml → Option α) (put : α → ρ → ρ) : Part ρ where
  key
  put v r := (read v).map (put · r)

/-- A record, given what it is when nothing is said. Keys that it does not know are passed over,
and no part may be given twice. -/
def record? {ρ : Type} (parts : List (Part ρ)) (blank : ρ) (v : Yaml) : Option ρ := do
  let entries ← v.entries?
  let known := entries.filterMap fun entry => (parts.find? (·.key = entry.1)).map (·, entry.2)
  if (known.map (·.1.key)).Nodup then known.foldlM (fun r (part, value) => part.put value r) blank
  else none

end Yaml

end OrderDesk
