import OrderDesk.Host.Bytes

/-!
# Hosts of eight groups

Eight groups of sixteen bits between colons, in hexadecimal. Two colons in a row stand for one or
more groups of zero, and the last two groups may be written as four bytes.
-/

namespace OrderDesk.Host

def group? (part : List Char) : Option Nat :=
  if part.isEmpty || 4 < part.length then none else digits? 16 part

/-- A byte in decimal, without zeros in front. -/
def byte? (part : List Char) : Option Nat :=
  if part.isEmpty || 3 < part.length || (part.head? = some '0' && 1 < part.length) then none
  else (digits? 10 part).filter (· < 256)

/-- The groups that a part at the end stands for: one, or two as four bytes. -/
def lastGroups? (part : List Char) : Option (List Nat) :=
  if part.contains '.' then do
    match ← (FieldPath.split '.' part).mapM byte? with
    | [a, b, c, d] => some [256 * a + b, 256 * c + d]
    | _ => none
  else (group? part).map ([·])

/-- Groups between colons up to the end of an address. -/
def groups? (cs : List Char) : Option (List Nat) :=
  if cs.isEmpty then some []
  else do
    let parts := FieldPath.split ':' cs
    let front ← parts.dropLast.mapM group?
    some (front ++ (← lastGroups? (parts.getLast?.getD [])))

/-- Splits at the first two colons in a row. -/
def splitDoubleColon : List Char → Option (List Char × List Char)
  | ':' :: ':' :: cs => some ([], cs)
  | c :: cs => (splitDoubleColon cs).map fun (front, back) => (c :: front, back)
  | [] => none

/-- The eight groups of an address. -/
def eightGroups? (cs : List Char) : Option (List Nat) :=
  match splitDoubleColon cs with
  | none => (groups? cs).filter (·.length = 8)
  | some (front, back) => do
    let front ← if front.isEmpty then some [] else (FieldPath.split ':' front).mapM group?
    let back ← groups? back
    if front.length + back.length ≤ 7 then
      some (front ++ List.replicate (8 - front.length - back.length) 0 ++ back)
    else none

/-- The length of the run of zeros at the start of some groups. -/
def zeros (groups : List Nat) : Nat := (groups.takeWhile (· = 0)).length

/-- The first of the longest runs of zeros, by its start and length. -/
def longestRun (groups : List Nat) : Nat × Nat :=
  (List.range groups.length).foldl (fun best i =>
    let n := zeros (groups.drop i)
    if best.2 < n then (i, n) else best) (0, 0)

def writeGroups (groups : List Nat) : String :=
  let join (gs : List Nat) : String := ":".intercalate (gs.map Text.hexadecimal)
  let (start, length) := longestRun groups
  if length < 2 then join groups
  else join (groups.take start) ++ "::" ++ join (groups.drop (start + length))

end OrderDesk.Host
