import OrderDesk.Host.PlainForm
import OrderDesk.Text.Composition
import OrderDesk.Text.Direction
import OrderDesk.Text.Joining
import OrderDesk.Text.Punycode

/-!
# Names of hosts

A name is a list of labels between points, in the plain form of its characters. A label that ASCII
characters cannot write is encoded behind a mark, and a label behind that mark stands for what it
encodes. Labels must not begin with a mark, join letters where nothing joins, or mix directions in
a way that hides where one label ends and the next begins.
-/

namespace OrderDesk.Host

/-- Characters that end a host, or that no host may have. -/
def isForbidden (c : Char) : Bool :=
  c ≤ ' ' || c = '\x7f' || "#%/:<>?@[\\]^|".toList.contains c

/-- The plain form of a text, if its characters have one. -/
def plainText? (cs : List Char) : Option (List Char) := do
  let forms ← cs.mapM plainForm?
  some (Text.composedForm forms.flatten)

/-! ### Encoded labels -/

/-- What an encoded label begins with. -/
def encodedMark : List Char := "xn--".toList

/-- No label is longer before it is encoded. -/
def maxLength : Nat := 1000

/-- No encoded label is longer behind its mark. -/
def maxEncodedLength : Nat := 2000

def isAscii (label : List Char) : Bool := label.all Text.Punycode.isBasic

/-- The text that a label stands for behind its mark, if it is plain and needs the mark. -/
def encodedText? (cs : List Char) : Option (List Char) := do
  if maxEncodedLength < cs.length || !isAscii cs then none
  else
    let text ← Text.Punycode.decode? cs
    if !isAscii text && plainText? text = some text then some text else none

/-- What a label in plain form stands for. -/
def labelText? (label : List Char) : Option (List Char) :=
  if encodedMark.isPrefixOf label then encodedText? (label.drop encodedMark.length)
  else some label

/-- A label as ASCII characters write it. -/
def asciiLabel (label : List Char) : List Char :=
  if isAscii label then label else encodedMark ++ Text.Punycode.encode label

/-! ### Joiners -/

def nonJoiner : Char := '\u200c'
def joiner : Char := '\u200d'

/-- Whether the first character that letters do not join across has a property. -/
def meets (p : Char → Bool) (cs : List Char) : Bool :=
  ((cs.dropWhile fun c => Text.isTransparent c && !p c).head?.map p).getD false

/-- Whether joiners stand behind a sign that asks for one, or keep two letters apart that would
join. What comes before is given in reverse. -/
def joinersFit (before : List Char) : List Char → Bool
  | [] => true
  | c :: cs =>
    let follows := (before.head?.map Text.combiningClass) = some Text.viramaClass
    let fits :=
      if c = joiner then follows
      else if c = nonJoiner then
        follows || (meets Text.joinsNext before && meets Text.joinsLast cs)
      else true
    fits && joinersFit (c :: before) cs

/-! ### Directions -/

/-- The directions of a label without the marks at its end. -/
def directions (label : List Char) : List Text.Direction :=
  ((label.map Text.direction).reverse.dropWhile (· = .mark)).reverse

/-- Whether a label to the left may hold a direction. -/
def fitsLeft : Text.Direction → Bool
  | .rightToLeft | .arabicNumber => false
  | _ => true

/-- Whether a label reads in one direction, wherever it stands. -/
def readsOneWay (label : List Char) : Bool :=
  let ds := directions label
  match (label.head?.map Text.direction), ds.getLast? with
  | none, _ => true
  | some .leftToRight, some last =>
    ds.all fitsLeft && (last = .leftToRight || last = .europeanNumber)
  | some .rightToLeft, some last =>
    ds.all (· ≠ .leftToRight) && last ∉ [.leftToRight, .mark, .neutral] &&
      !(ds.contains .europeanNumber && ds.contains .arabicNumber)
  | _, _ => false

/-- Whether a label holds characters that go to the left. -/
def goesLeft (label : List Char) : Bool := label.any fun c => !fitsLeft (Text.direction c)

/-! ### Names -/

/-- Whether a label may stand in a name. -/
def isLabel (label : List Char) : Bool :=
  (label.head?.map fun c => !Text.isMark c).getD true && joinersFit [] label &&
    (isAscii label || label.length ≤ maxLength)

/-- A name in lower-case ASCII characters. -/
def asciiName? (cs : List Char) : Option (List Char) := do
  let plain ← plainText? cs
  let labels ← (FieldPath.split '.' plain).mapM labelText?
  let name := ['.'].intercalate (labels.map asciiLabel)
  if labels.all isLabel && (!labels.any goesLeft || labels.all readsOneWay) &&
      !name.any isForbidden then some name
  else none

end OrderDesk.Host
