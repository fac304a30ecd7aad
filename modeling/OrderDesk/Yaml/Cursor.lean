import OrderDesk.Text.Basic

/-!
# Places in YAML text

A cursor is what is left of a text and where that stands: layout counts, so columns do. This
module holds the scalars and the blanks between tokens; each is read in one pass over the text.
-/

namespace OrderDesk.Yaml

structure Cursor where
  rest : List Char
  line : Nat := 0
  column : Nat := 0
  /-- Whether nothing but blanks stands before it on its line. -/
  fresh : Bool := true

namespace Cursor

/-- The cursor behind a character that ends no line. -/
def past (c : Cursor) (rest : List Char) : Cursor :=
  { c with rest, column := c.column + 1, fresh := false }

/-- The cursor behind a blank. -/
def pastBlank (c : Cursor) (rest : List Char) : Cursor := { c with rest, column := c.column + 1 }

/-- The cursor at the start of the next line. -/
def pastLine (c : Cursor) (rest : List Char) : Cursor := { rest, line := c.line + 1 }

end Cursor

/-! ### Characters -/

/-- Line ends, once they are all written one way. -/
def isBreak (c : Char) : Bool := c = '\n' || c = '\u2028' || c = '\u2029'

def isSpace (c : Char) : Bool := c = ' ' || c = '\t'

/-- Whether a blank, a line end or the end of the text comes next. -/
def blankNext : List Char → Bool
  | [] => true
  | c :: _ => isSpace c || isBreak c

/-- Writes the ends of all lines one way. -/
def unifyBreaks : List Char → List Char
  | '\r' :: '\n' :: cs => '\n' :: unifyBreaks cs
  | '\r' :: cs | '\x85' :: cs => '\n' :: unifyBreaks cs
  | c :: cs => c :: unifyBreaks cs
  | [] => []

/-- The characters that may stand in a text. -/
def isAllowed (c : Char) : Bool :=
  c = '\t' || c = '\n' || c = '\r' || c = '\x85' || (' ' ≤ c && c < '\x7f') ||
    ('\u00a0' ≤ c && c ≠ '\ufffe' && c ≠ '\uffff')

/-- Whether a line begins with the mark of a document's start or end. -/
def isMark (mark : String) (c : Cursor) : Bool :=
  c.column = 0 && mark.toList.isPrefixOf c.rest && blankNext (c.rest.drop mark.length)

def atDocumentMark (c : Cursor) : Bool := isMark "---" c || isMark "..." c

/-- The cursor behind the mark of a document's start or end. -/
def pastMark (c : Cursor) : Cursor :=
  { c with rest := c.rest.drop 3, column := c.column + 3, fresh := false }

/-- Whether what stands between two places can be a key: it is short and lies on one line. -/
def fitsKey (start c : Cursor) : Bool := c.line = start.line && c.column ≤ start.column + 1024

/-- Whether an item of a sequence begins here. -/
def atDash (c : Cursor) : Bool :=
  match c.rest with
  | '-' :: rest => blankNext rest
  | _ => false

/-- Whether a value follows here. Between brackets nothing need follow the colon. -/
def atColon (flow : Bool) (c : Cursor) : Bool :=
  match c.rest with
  | ':' :: rest => flow || blankNext rest
  | _ => false

/-! ### Blanks -/

/-- Passes blanks, comments and line ends, and the mark of the byte order where a line begins with
it. Tabs do not indent: at the start of a line they are passed only between brackets. -/
def skipFrom (flow : Bool) : List Char → Bool → Bool → Cursor → Cursor
  | [], _, _, c => { c with rest := [] }
  | x :: rest, tabs, comment, c =>
    if isBreak x then skipFrom flow rest flow false (c.pastLine rest)
    else if comment || x = ' ' || (x = '\t' && tabs) || (x = '\ufeff' && c.column = 0) then
      skipFrom flow rest tabs comment (c.pastBlank rest)
    else if x = '#' then skipFrom flow rest tabs true (c.pastBlank rest)
    else { c with rest := x :: rest }

def skip (flow tabs : Bool) (c : Cursor) : Cursor :=
  skipFrom flow c.rest (flow || (tabs && !c.fresh)) false c

/-- Passes blanks on a line. -/
def skipSpaces (c : Cursor) : Cursor :=
  let spaces := c.rest.takeWhile isSpace
  { c with rest := c.rest.drop spaces.length, column := c.column + spaces.length }

/-! ### Scalars -/

/-- Blanks and line ends inside a scalar, up to its next character. -/
structure Gap where
  /-- The blanks since the last character, the last one first. -/
  spaces : List Char := []
  /-- The line ends, the last one first. -/
  breaks : List Char := []
  /-- Whether a line end before these was taken back by a backslash. -/
  joined : Bool := false

namespace Gap

/-- Whether the scalar goes on in a line of its own. -/
def isBroken (g : Gap) : Bool := g.joined || !g.breaks.isEmpty

/-- What a gap becomes: a single line end is a blank, and further ones stay. The separators of
lines and paragraphs stay in any case. -/
def text (g : Gap) : List Char :=
  if g.joined then g.breaks.reverse
  else
    match g.breaks.reverse with
    | [] => g.spaces.reverse
    | ['\n'] => [' ']
    | '\n' :: breaks => breaks
    | breaks => breaks

def addSpace (g : Gap) (c : Char) : Gap :=
  if g.isBroken then g else { g with spaces := c :: g.spaces }

def addBreak (g : Gap) (c : Char) : Gap := { g with spaces := [], breaks := c :: g.breaks }

def isEmpty (g : Gap) : Bool := g.spaces.isEmpty && g.breaks.isEmpty

end Gap

/-- The rest of a plain scalar, given its text so far in reverse. It ends before a comment, a
value, a bracket or a comma between brackets, and a line that is indented too little. -/
def plainFrom (flow : Bool) (least : Nat) :
    List Char → List Char → Gap → Cursor → Option (List Char × Cursor)
  | [], text, _, c => some (text.reverse, { c with rest := [] })
  | x :: rest, text, gap, c =>
    if isBreak x then plainFrom flow least rest text (gap.addBreak x) (c.pastLine rest)
    else if isSpace x then
      -- a tab that would have to count as indentation
      if x = '\t' && gap.isBroken && c.column < least then none
      else plainFrom flow least rest text (gap.addSpace x) (c.pastBlank rest)
    else
      let here := { c with rest := x :: rest }
      let ends := (x = '#' && !gap.isEmpty) || (x = ':' && blankNext rest) ||
        (flow && ",[]\x7b\x7d".toList.contains x) ||
        (gap.isBroken && (atDocumentMark here || (!flow && c.column < least)))
      if ends then some (text.reverse, here)
      -- between brackets, a colon before one of these marks is neither text nor a value
      else if flow && x = ':' && (rest.head?.map (",?[]\x7b\x7d".toList.contains ·)).getD false then
        none
      else plainFrom flow least rest (x :: (gap.text.reverse ++ text)) {} (c.past rest)

/-- Whether a plain scalar can begin here. -/
def startsPlain (flow : Bool) : List Char → Bool
  | [] => false
  | '-' :: rest => !(rest.head?.map isSpace).getD false && !(blankNext rest)
  | '?' :: rest | ':' :: rest => !flow && !blankNext rest
  | c :: _ => !(isSpace c || isBreak c || ",[]\x7b\x7d#&*!|>'\"%@\x60".toList.contains c)

/-- The rest of a scalar between single quotes. A quote inside is written twice. -/
def singleFrom : List Char → List Char → Gap → Cursor → Option (List Char × Cursor)
  | [], _, _, _ => none
  | '\'' :: '\'' :: rest, text, gap, c =>
    singleFrom rest ('\'' :: (gap.text.reverse ++ text)) {}
      { c with rest, column := c.column + 2, fresh := false }
  | x :: rest, text, gap, c =>
    if atDocumentMark { c with rest := x :: rest } then none
    else if x = '\'' then some ((gap.text.reverse ++ text).reverse, c.past rest)
    else if isBreak x then singleFrom rest text (gap.addBreak x) (c.pastLine rest)
    else if isSpace x then singleFrom rest text (gap.addSpace x) (c.pastBlank rest)
    else singleFrom rest (x :: (gap.text.reverse ++ text)) {} (c.past rest)

/-- The character that a backslash and a letter stand for. -/
def escaped? : Char → Option Char
  | '0' => some '\x00'
  | 'a' => some '\x07'
  | 'b' => some '\x08'
  | 't' | '\t' => some '\t'
  | 'n' => some '\n'
  | 'v' => some '\x0b'
  | 'f' => some '\x0c'
  | 'r' => some '\r'
  | 'e' => some '\x1b'
  | ' ' => some ' '
  | '"' => some '"'
  | '/' => some '/'
  | '\\' => some '\\'
  | 'N' => some '\x85'
  | '_' => some '\u00a0'
  | 'L' => some '\u2028'
  | 'P' => some '\u2029'
  | _ => none

/-- The number of digits behind a backslash and a letter. -/
def codeLength : Char → Nat
  | 'x' => 2
  | 'u' => 4
  | 'U' => 8
  | _ => 0

/-- The character with a code point in hexadecimal digits. -/
def coded? (digits : List Char) : Option Char := do
  let n ← digits.foldlM (fun n d => (Text.hexValue? d).map (16 * n + ·)) 0
  if h : n.isValidChar then some (Char.ofNatAux n h) else none

/-- Reads the digits of a code point inside a scalar: how many are missing, and those so far. -/
structure Code where
  missing : Nat
  digits : List Char := []

/-- The rest of a scalar between double quotes. A backslash begins an escape, and takes back the
end of a line. -/
def doubleFrom : List Char → List Char → Gap → Option Code → Cursor → Option (List Char × Cursor)
  | [], _, _, _, _ => none
  | x :: rest, text, gap, some code, c =>
    let digits := code.digits ++ [x]
    if code.missing = 1 then do
      doubleFrom rest ((← coded? digits) :: text) gap none (c.past rest)
    else doubleFrom rest text gap (some ⟨code.missing - 1, digits⟩) (c.past rest)
  | '\\' :: x :: rest, text, gap, none, c =>
    let text := gap.text.reverse ++ text
    let next := { c with rest, column := c.column + 2, fresh := false }
    if isBreak x then doubleFrom rest text { joined := true } none (c.pastLine rest)
    else if 0 < codeLength x then doubleFrom rest text {} (some ⟨codeLength x, []⟩) next
    else do doubleFrom rest ((← escaped? x) :: text) {} none next
  | x :: rest, text, gap, none, c =>
    if atDocumentMark { c with rest := x :: rest } then none
    else if x = '"' then some ((gap.text.reverse ++ text).reverse, c.past rest)
    else if isBreak x then doubleFrom rest text (gap.addBreak x) none (c.pastLine rest)
    else if isSpace x then doubleFrom rest text (gap.addSpace x) none (c.pastBlank rest)
    else if x = '\\' then none
    else doubleFrom rest (x :: (gap.text.reverse ++ text)) {} none (c.past rest)

end OrderDesk.Yaml
