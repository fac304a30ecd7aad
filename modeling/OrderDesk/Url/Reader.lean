import OrderDesk.Text.Basic
import OrderDesk.Url.Path

/-!
# Reading addresses

Blanks around an address and line ends inside it count for nothing. The scheme says in what manner
the rest is read.
-/

namespace OrderDesk.Url

/-- Why a text is no address. -/
inductive Fault where
  | noScheme
  | port
  | host (fault : Host.Fault)
deriving DecidableEq, Repr

def Fault.message : Fault → String
  | noScheme => "relative URL without a base"
  | port => "invalid port number"
  | host .empty => "empty host"
  | host .name => "invalid international domain name"
  | host .character => "invalid domain character"
  | host .bytes => "invalid IPv4 address"
  | host .groups => "invalid IPv6 address"

/-! ### Schemes -/

def isSchemeChar (c : Char) : Bool := c.isAlphanum || c = '+' || c = '-' || c = '.'

/-- The scheme in lower case, and what follows its colon. -/
def splitScheme? (cs : List Char) : Option (String × List Char) :=
  let name := cs.takeWhile isSchemeChar
  match cs.dropWhile isSchemeChar with
  | ':' :: rest =>
    if (name.head?.map Char.isAlpha).getD false then
      some (String.ofList (name.map Char.toLower), rest)
    else none
  | _ => none

/-! ### Authorities -/

/-- Splits at the last occurrence of a character, if there is one. -/
def splitLast? (c : Char) (cs : List Char) : Option (List Char × List Char) :=
  let back := cs.reverse
  match back.dropWhile (· ≠ c) with
  | _ :: front => some (front.reverse, (back.takeWhile (· ≠ c)).reverse)
  | [] => none

def encoded (isPlain : Char → Bool) (cs : List Char) : String :=
  String.ofList (Http.percentEncode isPlain cs)

/-- The host and the port of an authority: the port follows a colon outside of brackets. -/
def splitPort (cs : List Char) : List Char × Option (List Char) :=
  match cs with
  | '[' :: _ =>
    let host := cs.takeWhile (· ≠ ']')
    match cs.dropWhile (· ≠ ']') with
    | ']' :: ':' :: port => (host ++ [']'], some port)
    | rest => (host ++ rest, none)
  | _ =>
    match cs.dropWhile (· ≠ ':') with
    | ':' :: port => (cs.takeWhile (· ≠ ':'), some port)
    | _ => (cs, none)

/-- The port as it is written behind a host. -/
def portText (scheme : String) (cs : List Char) : Except Fault String :=
  if cs.isEmpty then .ok ""
  else if cs.all Char.isDigit then
    match Text.readNatural 65535 cs with
    | .ok n => .ok (if defaultPort? scheme = some n then "" else ":" ++ toString n)
    | .error _ => .error .port
  else .error .port

def endsPath (c : Char) : Bool := c = '?' || c = '#'

/-- Whether a character stands behind all authorities. -/
def endsAuthority (m : Manner) (c : Char) : Bool := isSlash m c || endsPath c

/-- Reads an authority into an address; what is left begins with the path. An authority that says
anything but a host needs a host as well. -/
def readAuthority (u : Url) (cs : List Char) : Except Fault (Url × List Char) := do
  let m := manner u.scheme
  let rest := cs.dropWhile (!endsAuthority m ·)
  let (credentials?, place) := match splitLast? '@' (cs.takeWhile (!endsAuthority m ·)) with
    | some (credentials, place) => (some credentials, place)
    | none => (none, cs.takeWhile (!endsAuthority m ·))
  let credentials := credentials?.getD []
  let username := encoded isCredentialChar (credentials.takeWhile (· ≠ ':'))
  let password := encoded isCredentialChar ((credentials.dropWhile (· ≠ ':')).drop 1)
  if credentials? = some [] && place.isEmpty && !rest.isEmpty then throw (.host .empty)
  let (name, port?) := splitPort place
  let host ←
    (if m = .plain then Host.verbatim name else Host.ofText name).mapError Fault.host
  if host = "" && (port?.isSome || username ≠ "" || password ≠ "") then throw (.host .empty)
  -- a backslash ends a port even where it is no slash
  let port := (port?.getD []).takeWhile (· ≠ '\\')
  let rest := (port?.getD []).drop port.length ++ rest
  let u := { u with username, password, host := host ++ (← portText u.scheme port) }
  return (u, rest)

/-- Reads the host of a file, if there is one. A drive is none, and this machine need not be
named. -/
def readFileHost (cs : List Char) : Except Fault (String × List Char) := do
  let name := cs.takeWhile (!endsAuthority .file ·)
  if isDrive name then return ("", cs)
  let rest := cs.dropWhile (!endsAuthority .file ·)
  if name.isEmpty then return ("", rest)
  let host ← (Host.ofText name).mapError Fault.host
  return (if host = "localhost" then "" else host, rest)

/-! ### Addresses -/

/-- Reads a query and a fragment into an address. -/
def readTrailer (u : Url) (cs : List Char) : Url :=
  let (query, rest) := match cs with
    | '?' :: cs =>
      (some (encoded (isQueryChar (manner u.scheme)) (cs.takeWhile (· ≠ '#'))),
        cs.dropWhile (· ≠ '#'))
    | cs => (none, cs)
  match rest with
  | '#' :: cs => { u with query, fragment := some (encoded isFragmentChar cs) }
  | _ => { u with query }

/-- Reads what comes behind the path, given how the path itself is read. -/
def readPath (u : Url) (path : List Char → List Char) (cs : List Char) : Url :=
  readTrailer { u with path := String.ofList (path (cs.takeWhile (!endsPath ·))) }
    (cs.dropWhile (!endsPath ·))

/-- A path without the slash at its start, where there has to be none. -/
def withoutSlash (m : Manner) : List Char → List Char
  | [] => []
  | c :: cs => if isSlash m c then cs else c :: cs

/-- Reads an address of a file. -/
def readFile (u : Url) (cs : List Char) : Except Fault Url := do
  let path (cs : List Char) : List Char := settled .file (pathFromStart .file cs)
  match cs with
  | a :: b :: rest =>
    if !(isSlash .file a && isSlash .file b) then
      return readPath u (fun cs => path (withoutSlash .file cs)) cs
    let (host, rest) ← readFileHost rest
    if host = "" then return readPath u path rest
    let walked := pathFromStart .file (withoutSlash .file (rest.takeWhile (!endsPath ·)))
    return readPath { u with host := if beginsWithDrive walked then "" else host }
      (fun _ => settled .file walked) rest
  | cs => return readPath u (fun cs => path (withoutSlash .file cs)) cs

/-- The path of an address outside the web that has an authority: it may be empty. -/
def plainPath (cs : List Char) : List Char :=
  if cs.isEmpty then [] else pathFromStart .plain (withoutSlash .plain cs)

/-- Reads an address outside the web. -/
def readPlain (u : Url) (cs : List Char) : Except Fault Url := do
  match cs with
  | '/' :: '/' :: cs =>
    let (u, rest) ← readAuthority u cs
    return readPath u plainPath rest
  | '/' :: cs =>
    let u := readPath { u with hasAuthority := false } (pathFromStart .plain) cs
    return { u with isGuarded := "//".toList.isPrefixOf u.path.toList }
  | cs =>
    return readPath { u with hasAuthority := false }
      (Http.percentEncode fun c => ' ' ≤ c && c < '\x7f') cs

/-- The address that a text spells. -/
def ofText (text : String) : Except Fault Url := do
  let isEdge (c : Char) : Bool := c ≤ ' '
  let cs := ((text.toList.dropWhile isEdge).reverse.dropWhile isEdge).reverse
  let some (scheme, rest) := splitScheme? (cs.filter (!isIgnored ·)) | throw .noScheme
  let u : Url := { scheme, path := "" }
  match manner scheme with
  | .web =>
    let (u, rest) ← readAuthority u (rest.dropWhile (isSlash .web))
    return readPath u (fun cs => pathFromStart .web (withoutSlash .web cs)) rest
  | .file => readFile u rest
  | .plain => readPlain u rest

end OrderDesk.Url
