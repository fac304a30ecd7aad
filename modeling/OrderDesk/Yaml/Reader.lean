import OrderDesk.Yaml.Basic
import OrderDesk.Yaml.Cursor

/-!
# Reading YAML

Mappings and sequences, by layout or between brackets, with plain and quoted scalars and
comments. Anchors, tags, directives, block scalars and keys of several lines are not read. A text
holds one document.
-/

namespace OrderDesk.Yaml

/-- Reads at a cursor and moves it on; fails where the text is no YAML. -/
abbrev Reading := StateT Cursor Option

/-- Passes one character. -/
def pass : Reading Unit := modify fun c => c.past (c.rest.drop 1)

def skipTo (flow tabs : Bool) : Reading Cursor := do
  modify (skip flow tabs)
  get

/-- Reads a scalar with one of the scanners. -/
def scalarBy (plain : Bool) (scan : Cursor → Option (List Char × Cursor)) : Reading Yaml := do
  match scan (← get) with
  | some (text, c) => do
    set c
    return .scalar plain (String.ofList text)
  | none => failure

/-- A scalar at the cursor. -/
def readScalar (flow : Bool) (least : Nat) : Reading Yaml := do
  let c ← get
  if atDocumentMark c then failure
  match c.rest with
  | '\'' :: rest => scalarBy false fun c => singleFrom rest [] {} (c.past rest)
  | '"' :: rest => scalarBy false fun c => doubleFrom rest [] {} none (c.past rest)
  | rest =>
    if startsPlain flow rest then scalarBy true fun c => plainFrom flow least rest [] {} c
    else failure

/-! ### Between brackets -/

mutual

/-- A value between brackets. -/
def flowNode : Nat → Reading Yaml
  | 0 => failure
  | fuel + 1 => do
    match (← get).rest with
    | '[' :: _ => do
      pass
      return .sequence (← flowItems fuel)
    | '\x7b' :: _ => do
      pass
      return .mapping (← flowEntries fuel)
    | _ => readScalar true 0

/-- The value behind a key, if there is one, given where the key begins. -/
def flowValue : Nat → Cursor → Reading Yaml
  | 0, _ => failure
  | fuel + 1, start => do
    let c ← skipTo true true
    if !atColon true c then return .nothing
    if !fitsKey start c then failure
    pass
    let c ← skipTo true true
    if (c.rest.head?.map (",]\x7d".toList.contains ·)).getD false then return .nothing
    flowNode fuel

/-- The items up to the closing bracket. An item may be a single entry. -/
def flowItems : Nat → Reading (List Yaml)
  | 0 => failure
  | fuel + 1 => do
    let start ← skipTo true true
    if start.rest.head? = some ']' then
      pass
      return []
    let node ← flowNode fuel
    let item ← if atColon true (← skipTo true true) then do
        pure (.mapping [(node, ← flowValue fuel start)])
      else pure node
    let c ← skipTo true true
    match c.rest with
    | ',' :: _ => do
      pass
      return item :: (← flowItems fuel)
    | ']' :: _ => do
      pass
      return [item]
    | _ => failure

/-- The entries up to the closing brace. -/
def flowEntries : Nat → Reading (List (Yaml × Yaml))
  | 0 => failure
  | fuel + 1 => do
    let start ← skipTo true true
    if start.rest.head? = some '\x7d' then
      pass
      return []
    let key ← flowNode fuel
    let value ← flowValue fuel start
    let c ← skipTo true true
    match c.rest with
    | ',' :: _ => do
      pass
      return (key, value) :: (← flowEntries fuel)
    | '\x7d' :: _ => do
      pass
      return [(key, value)]
    | _ => failure

end

/-! ### By layout -/

/-- A scalar or a bracketed value, with the blanks behind it on its line. Lines that belong to it
are indented by `least`. -/
def single (fuel least : Nat) : Reading Yaml := do
  let node ← match (← get).rest with
    | '[' :: _ | '\x7b' :: _ => flowNode fuel
    | _ => readScalar false least
  modify skipSpaces
  return node

/-- A key in the current line. -/
def key (fuel column : Nat) : Reading Yaml := do
  let start ← get
  let node ← single fuel (column + 1)
  let c ← get
  if atColon false c && fitsKey start c then return node else failure

/-- Whether a collection in a column goes on at the cursor; fails where neither that nor its end
is possible. -/
def goesOn (column : Nat) : Reading Bool := do
  let c ← skipTo false true
  if c.rest.isEmpty || atDocumentMark c then return false
  if !c.fresh || column < c.column then failure
  return c.column = column

mutual

/-- A node. A collection can begin only where keys can. -/
def node : Nat → Nat → Bool → Reading Yaml
  | 0, _, _ => failure
  | fuel + 1, least, keys => do
    let start ← get
    if atDash start then
      if keys then return .sequence (← items fuel start.column) else failure
    -- either a key, or the whole node
    let first ← single fuel least
    let c ← get
    if !atColon false c then return first
    if keys && fitsKey start c then return .mapping (← entries fuel start.column first)
    failure

/-- What stands behind a dash, or behind the colon of a key, in a column. -/
def inner : Nat → Nat → Bool → Reading Yaml
  | 0, _, _ => failure
  | fuel + 1, column, dash => do
    let before ← get
    pass
    let c ← skipTo false (!dash)
    if c.rest.isEmpty then return .nothing
    if c.line = before.line then node fuel (column + 1) dash
    else if atDocumentMark c then return .nothing
    else if column < c.column then node fuel (column + 1) true
    -- the items of a value may stand in the column of its key
    else if !dash && c.column = column && atDash c then
      return .sequence (← items fuel column)
    else return .nothing

/-- The items of a sequence whose dashes stand in a column. -/
def items : Nat → Nat → Reading (List Yaml)
  | 0, _ => failure
  | fuel + 1, column => do
    let item ← inner fuel column true
    if (← goesOn column) && atDash (← get) then return item :: (← items fuel column)
    return [item]

/-- The entries of a mapping whose keys stand in a column, the first key being read. -/
def entries : Nat → Nat → Yaml → Reading (List (Yaml × Yaml))
  | 0, _, _ => failure
  | fuel + 1, column, name => do
    let value ← inner fuel column false
    if ← goesOn column then
      if atDash (← get) then failure
      let next ← key fuel column
      return (name, value) :: (← entries fuel column next)
    return [(name, value)]

end

/-! ### Documents -/

/-- Fails unless nothing but the end of the document is left. It may be marked any number of
times. -/
def endOfText : Nat → Reading Unit
  | 0 => failure
  | fuel + 1 => do
    let c ← skipTo false true
    if isMark "..." c then
      set (pastMark c)
      endOfText fuel
    else if !c.rest.isEmpty then failure

/-- The document of a text, which may begin with a mark of its own. What has not begun cannot
end. -/
def readDocument (fuel : Nat) : Reading Yaml := do
  let c ← skipTo false false
  let marked := isMark "---" c
  if isMark "..." c then failure
  if marked then set (pastMark c)
  let start ← skipTo false marked
  let root ← if start.rest.isEmpty || atDocumentMark start then pure .nothing
    else node fuel 0 (!marked || start.line ≠ c.line)
  endOfText fuel
  return root

/-- The value of a text. -/
def parse? (text : String) : Option Yaml :=
  let cs := match text.toList with
    | '\ufeff' :: cs => cs
    | cs => cs
  if cs.all isAllowed then
    let cs := unifyBreaks cs
    ((readDocument (4 * cs.length + 8)).run { rest := cs }).map (·.1)
  else none

end OrderDesk.Yaml
