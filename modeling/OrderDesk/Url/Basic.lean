import OrderDesk.Host

/-!
# Addresses of the web

An address is a scheme, perhaps an authority with credentials, host and port, a path, a query and
a fragment. Without an authority and a path that begins with a slash it is opaque, and nothing
can be added to its path.
-/

namespace OrderDesk

structure Url where
  scheme : String
  /-- Whether there is an authority, even an empty one. -/
  hasAuthority : Bool := true
  /-- A name and a password, encoded; nothing is told from an empty one. -/
  username : String := ""
  password : String := ""
  /-- The host, with its port unless that goes without saying. -/
  host : String := ""
  /-- Whether the path is kept from looking like an authority. -/
  isGuarded : Bool := false
  path : String
  query : Option String := none
  fragment : Option String := none
deriving DecidableEq, Repr

namespace Url

/-! ### Schemes -/

/-- How the addresses of a scheme are read. -/
inductive Manner where
  /-- There is always a host, and a backslash is a slash. -/
  | web
  /-- There may be a host, a backslash is a slash, and a path may begin with a drive. -/
  | file
  /-- There may be a host, and characters stand for themselves. -/
  | plain
deriving DecidableEq, Repr

/-- The port that goes without saying. -/
def defaultPort? : String → Option Nat
  | "http" | "ws" => some 80
  | "https" | "wss" => some 443
  | "ftp" => some 21
  | _ => none

def manner (scheme : String) : Manner :=
  if scheme = "file" then .file
  else if (defaultPort? scheme).isSome then .web
  else .plain

def isSlash (m : Manner) (c : Char) : Bool := c = '/' || (m ≠ .plain && c = '\\')

/-! ### Texts -/

/-- Whether segments can be added to the path. -/
def isBase (u : Url) : Bool := u.hasAuthority || u.path.toList.head? = some '/'

/-- The part of an address that is sent to its host. -/
def target (u : Url) : String :=
  u.path ++ match u.query with
    | some q => "?" ++ q
    | none => ""

/-- Credentials with the mark behind them, or nothing. -/
def credentials (u : Url) : String :=
  if u.username = "" && u.password = "" then ""
  else u.username ++ (if u.password = "" then "" else ":" ++ u.password) ++ "@"

/-- The text of an address. -/
def write (u : Url) : String :=
  u.scheme ++ ":" ++ (if u.hasAuthority then "//" ++ u.credentials ++ u.host else "") ++
    (if u.isGuarded then "/." else "") ++ u.target ++ match u.fragment with
      | some f => "#" ++ f
      | none => ""

/-- The address without its credentials, if they are texts that can be sent apart from it. -/
def withoutCredentials (u : Url) : Url :=
  let isText (cs : String) : Bool := (Http.percentText? cs.toList).isSome
  if isText u.username && (u.username ≠ "" || isText u.password) then
    { u with username := "", password := "" }
  else u

/-! ### Characters -/

/-- Characters that stand for themselves in all parts. -/
def isCommonChar (c : Char) : Bool := ' ' < c && c < '\x7f' && c ≠ '"' && c ≠ '<' && c ≠ '>'

def isFragmentChar (c : Char) : Bool := isCommonChar c && c ≠ '\x60'

def isQueryChar (m : Manner) (c : Char) : Bool :=
  isCommonChar c && c ≠ '#' && (m = .plain || c ≠ '\'')

def isPathChar (c : Char) : Bool :=
  isFragmentChar c && !"#?\x7b\x7d".toList.contains c

/-- Inside a segment, a percent sign and whatever is a slash are encoded too. -/
def isSegmentChar (m : Manner) (c : Char) : Bool := isPathChar c && c ≠ '%' && !isSlash m c

def isCredentialChar (c : Char) : Bool :=
  isPathChar c && !"/:;=@[\\]^|".toList.contains c

/-- Line ends and tabs count for nothing. -/
def isIgnored (c : Char) : Bool := c = '\t' || c = '\n' || c = '\r'

/-! ### Queries -/

/-- An address with a parameter added to its query. -/
def withParameter (u : Url) (name value : String) : Url :=
  let parameter := name ++ "=" ++ value
  { u with
    query := some (match u.query with
      | none | some "" => parameter
      | some q => q ++ "&" ++ parameter) }

end Url

end OrderDesk
