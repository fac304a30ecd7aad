import OrderDesk.Binary64.Layout
import OrderDesk.Json.Basic

/-!
# JSON text

Compact text: no blanks between tokens, and in strings only what has to be escaped is.
-/

namespace OrderDesk.Json

/-- Floats have a fraction or an exponent, so that they read back as floats. -/
def floatLayout : Binary64.Layout where
  positional := some (-5, 16)
  pointZero := true
  plusSign := true
  tie := .toEven

def hexDigit (n : Nat) : Char :=
  if n < 10 then Char.ofNat (48 + n) else Char.ofNat (87 + n)

/-- The written form of a character inside quotes. -/
def escapeChar (c : Char) : List Char :=
  if c = '"' then ['\\', '"']
  else if c = '\\' then ['\\', '\\']
  else if c = '\n' then ['\\', 'n']
  else if c = '\r' then ['\\', 'r']
  else if c = '\t' then ['\\', 't']
  else if c = '\x08' then ['\\', 'b']
  else if c = '\x0c' then ['\\', 'f']
  else if c.toNat < 32 then
    ['\\', 'u', '0', '0', hexDigit (c.toNat / 16), hexDigit (c.toNat % 16)]
  else [c]

def quote (s : String) : String :=
  "\"" ++ String.ofList (s.toList.flatMap escapeChar) ++ "\""

def Number.write : Number → String
  | natural n => toString n
  | negative n _ => toString n
  | float x => x.write floatLayout

mutual

/-- The compact text of a value. -/
def write : Json → String
  | null => "null"
  | boolean b => if b then "true" else "false"
  | number n => n.write
  | string s => quote s
  | array items => "[" ++ ",".intercalate (writeItems items) ++ "]"
  | object members => "\x7b" ++ ",".intercalate (writeMembers members) ++ "\x7d"

def writeItems : List Json → List String
  | [] => []
  | item :: items => item.write :: writeItems items

def writeMembers : List (String × Json) → List String
  | [] => []
  | member :: members => writeMember member :: writeMembers members

def writeMember : String × Json → String
  | (name, value) => quote name ++ ":" ++ value.write

end

end OrderDesk.Json
