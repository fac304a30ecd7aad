import OrderDesk.Host.Groups
import OrderDesk.Host.Name
import OrderDesk.Http.Percent

/-!
# Hosts

A host is a name, four bytes, or eight groups of sixteen bits between brackets. Each has one
written form: names in lower-case ASCII characters, bytes in decimal, and groups in hexadecimal
with the longest run of zeros left out.
-/

namespace OrderDesk.Host

/-- Why a text is no host. -/
inductive Fault where
  | empty
  | name
  | character
  | bytes
  | groups
deriving DecidableEq, Repr

/-- The written form of a host between brackets. -/
def ofBrackets (cs : List Char) : Except Fault String :=
  match cs.reverse with
  | ']' :: back =>
    match eightGroups? back.reverse with
    | some groups => .ok ("[" ++ writeGroups groups ++ "]")
    | none => .error .groups
  | _ => .error .groups

/-- The written form of the host that a text names. -/
def ofText (cs : List Char) : Except Fault String :=
  match cs with
  | '[' :: cs => ofBrackets cs
  | cs =>
    match (Http.percentText? cs).bind fun text => asciiName? text.toList with
    | none => .error .name
    | some [] => .error .empty
    | some name =>
      if endsInNumber name then
        match bytes? name with
        | some n => .ok (writeBytes n)
        | none => .error .bytes
      else .ok (String.ofList name)

/-- The written form of a host outside the web, which is any text of the right characters. -/
def verbatim (cs : List Char) : Except Fault String :=
  match cs with
  | '[' :: cs => ofBrackets cs
  | cs =>
    if cs.any fun c => c = '\x00' || c = ' ' || "#/:<>?@[\\]^|".toList.contains c then
      .error .character
    else .ok (String.ofList (Http.percentEncode (fun c => ' ' ≤ c && c < '\x7f') cs))

end OrderDesk.Host
