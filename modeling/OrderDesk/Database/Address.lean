import OrderDesk.Database.Options
import OrderDesk.Host.Groups

/-!
# Addresses of databases

An address names a scheme, perhaps credentials, one or more servers, perhaps a database, and
options. It is checked as a whole before anybody is talked to. An address of another scheme names
a service whose servers would have to be looked up, so no connection comes of it.
-/

namespace OrderDesk.Database

/-! ### Servers -/

/-- Whether a text is the port of a server. -/
def isPort (cs : List Char) : Bool :=
  match Text.readNatural 65535 cs with
  | .ok n => n ≠ 0
  | .error _ => false

/-- Whether a text is a server: the path of a socket, or a host, perhaps with a port. A host of
eight groups stands between brackets. -/
def isServer (cs : List Char) : Bool :=
  if ".sock".toList.isSuffixOf cs then (Http.percentText? cs).isSome
  else
    match cs with
    | '[' :: rest =>
      (Host.eightGroups? (rest.takeWhile (· ≠ ']'))).isSome &&
        match rest.dropWhile (· ≠ ']') with
        | [']'] => true
        | ']' :: ':' :: port => isPort port
        | _ => false
    | cs =>
      !(cs.takeWhile (· ≠ ':')).isEmpty && match cs.dropWhile (· ≠ ':') with
        | ':' :: port => isPort port
        | _ => true

/-! ### Accounts -/

/-- Whether every percent sign stands before two digits. -/
def isEncoded : List Char → Bool
  | '%' :: a :: b :: cs => (Text.hexValue? a).isSome && (Text.hexValue? b).isSome && isEncoded cs
  | '%' :: _ => false
  | _ :: cs => isEncoded cs
  | [] => true

/-- The name or password that a text encodes; marks of addresses have to be encoded. -/
def credential? (cs : List Char) : Option String :=
  if cs.any (":/?#[]@".toList.contains ·) || !isEncoded cs then none else Http.percentText? cs

/-- The account that a text names. -/
def account? (cs : List Char) : Option Account := do
  let name ← credential? (cs.takeWhile (· ≠ ':'))
  if name = "" then none
  else
    match cs.dropWhile (· ≠ ':') with
    | ':' :: cs => some ⟨name, some (← credential? cs)⟩
    | _ => some ⟨name, none⟩

/-! ### Addresses -/

/-- Whether a text is the name of a database. -/
def isDatabaseName (cs : List Char) : Bool :=
  match Http.percentText? cs with
  | some name => !name.toList.any ("/\\ \"$".toList.contains ·)
  | none => false

/-- Splits off what comes before the last occurrence of a character. -/
def splitLast (c : Char) (cs : List Char) : Option (List Char) × List Char :=
  let back := cs.reverse
  match back.dropWhile (· ≠ c) with
  | _ :: front => (some front.reverse, (back.takeWhile (· ≠ c)).reverse)
  | [] => (none, cs)

/-- Whether a text behind its scheme says where a database is and how to talk to it. -/
def isReachedBy (cs : List Char) : Bool :=
  let (credentials, place) := splitLast '@' (cs.takeWhile (· ≠ '?'))
  let servers := FieldPath.split ',' (place.takeWhile (· ≠ '/'))
  let account := credentials.bind account?
  servers.all isServer && account.isSome = credentials.isSome &&
    isDatabaseName ((place.dropWhile (· ≠ '/')).drop 1) &&
    match Options.ofText? ((cs.dropWhile (· ≠ '?')).drop 1) with
    | some o => o.fitTogether servers.length && o.accountFits account
    | none => false

def scheme : List Char := "mongodb://".toList

/-- Whether a connection can be prepared without asking anybody where the servers are. -/
def canConnect (text : String) : Bool :=
  scheme.isPrefixOf text.toList && isReachedBy (text.toList.drop scheme.length)

def connectMessage (text : String) : String := "Failed to create MongoDB client for " ++ text

end OrderDesk.Database
