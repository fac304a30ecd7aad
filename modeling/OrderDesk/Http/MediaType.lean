/-!
# Media types

A media type is a pair of tokens, the second one perhaps with a suffix behind a plus sign, and
parameters behind semicolons. Case does not matter.
-/

namespace OrderDesk.Http

structure MediaType where
  type : String
  subtype : String
  suffix : Option String

namespace MediaType

/-- The characters of tokens. -/
def isTokenChar (c : Char) : Bool :=
  c.isAlphanum || "!#$%&*+-.^_|~".toList.contains c || c = '\'' || c = '\x60'

/-- The characters between quotes. -/
def isQuotedChar (c : Char) : Bool :=
  ' ' ≤ c && c ≠ '"' && c ≠ '\x7f'

/-- What follows the closing quote of a parameter: blanks, then its end. -/
def afterQuote? : List Char → Option (List Char)
  | [] => some []
  | ';' :: cs => some cs
  | ' ' :: cs => afterQuote? cs
  | _ => none

/-- What follows the value of a parameter. Between quotes there is at least one character, which
may itself be a quote. -/
def afterValue? (cs : List Char) : Option (List Char) :=
  match cs with
  | '"' :: c :: cs =>
    match (if isQuotedChar c || c = '"' then cs.dropWhile isQuotedChar else []) with
    | '"' :: rest => afterQuote? rest
    | _ => none
  | '"' :: [] => none
  | _ =>
    match cs.dropWhile isTokenChar with
    | [] => some []
    | ';' :: rest => if cs.head? = some ';' then none else some rest
    | _ => none

/-- What follows the first of some parameters. -/
def afterParameter? (cs : List Char) : Option (List Char) :=
  let cs := cs.dropWhile (· = ' ')
  if cs.isEmpty then some []
  else
    match cs.dropWhile isTokenChar with
    | '=' :: rest => if cs.head? = some '=' then none else afterValue? rest
    | _ => none

/-- Whether a text is a list of parameters. Each takes at least one character. -/
def areParameters (cs : List Char) : Bool := go cs.length cs
where
  go : Nat → List Char → Bool
    | _, [] => true
    | 0, _ => false
    | fuel + 1, cs =>
      match afterParameter? cs with
      | some rest => go fuel rest
      | none => false

/-- Splits a suffix off at the last plus sign, unless that comes first. -/
def splitSuffix (subtype : List Char) : List Char × Option (List Char) :=
  let back := subtype.reverse
  let suffix := back.takeWhile (· ≠ '+')
  match back.dropWhile (· ≠ '+') with
  | '+' :: c :: cs => ((c :: cs).reverse, some suffix.reverse)
  | _ => (subtype, none)

/-- The media type that a text names. -/
def ofText? (text : String) : Option MediaType :=
  let cs := text.toList.map Char.toLower
  let type := cs.takeWhile isTokenChar
  match cs.dropWhile isTokenChar with
  | '/' :: rest =>
    let subtype := rest.takeWhile isTokenChar
    let valid := match rest.dropWhile isTokenChar with
      | [] => true
      | ';' :: parameters => !subtype.isEmpty && areParameters parameters
      | _ => false
    if type.isEmpty || !valid then none
    else
      let (subtype, suffix) := splitSuffix subtype
      some ⟨String.ofList type, String.ofList subtype, suffix.map String.ofList⟩
  | _ => none

/-- JSON, and what is written in JSON. -/
def isJson (m : MediaType) : Bool :=
  m.type = "application" && (m.subtype = "json" || m.suffix = some "json")

end MediaType

end OrderDesk.Http
