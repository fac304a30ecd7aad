import OrderDesk.Url.Basic

/-!
# Paths of addresses

A path is read segment by segment. A segment of one dot stays where it is and a segment of two
dots goes one segment back, but not past the start and not out of a drive.
-/

namespace OrderDesk.Url

def isSingleDot (segment : List Char) : Bool :=
  String.ofList (segment.map Char.toLower) ∈ [".", "%2e"]

def isDoubleDot (segment : List Char) : Bool :=
  String.ofList (segment.map Char.toLower) ∈ ["..", ".%2e", "%2e.", "%2e%2e"]

/-! ### Drives -/

/-- Whether a text begins like a drive: a letter and a colon or bar, and then no more or a
backslash. -/
def startsWithDrive : List Char → Bool
  | [a, b] => a.isAlpha && (b = ':' || b = '|')
  | a :: b :: c :: _ => a.isAlpha && (b = ':' || b = '|') && c = '\\'
  | _ => false

def isDrive (segment : List Char) : Bool := segment.length = 2 && startsWithDrive segment

/-- The first segment of the path of a file, whose drive ends in a colon. -/
def firstSegment (m : Manner) (segment : List Char) : List Char :=
  if m = .file && isDrive segment then segment.take 1 ++ [':'] else segment

/-! ### Going on and back -/

/-- The segment at the end of a path, which has a slash behind it. -/
def lastSegment (path : List Char) : List Char :=
  (path.dropLast.reverse.takeWhile (· ≠ '/')).reverse

/-- A path that ends in a slash, without its last segment. -/
def parent (path : List Char) : List Char :=
  if path = ['/'] || startsWithDrive (lastSegment path) then path
  else path.dropLast.take (path.length - 1 - (lastSegment path).length)

/-- Puts an encoded segment behind a path that ends in a slash. -/
def enter (m : Manner) (path segment : List Char) : List Char :=
  if isSingleDot segment then path
  else if isDoubleDot segment then parent path
  else path ++ if path = ['/'] then firstSegment m segment else segment

/-- Whether a path begins with a drive, which is on this side of all hosts. -/
def beginsWithDrive (path : List Char) : Bool := isDrive ((path.drop 1).takeWhile (· ≠ '/'))

/-- A path of a file begins with one slash only. -/
def settled (m : Manner) (path : List Char) : List Char :=
  if m = .file then '/' :: path.dropWhile (· = '/') else path

/-! ### Reading -/

/-- The segments of a path, each with whether a slash follows it. -/
def pathParts (m : Manner) : List Char → List (List Char × Bool)
  | [] => [([], false)]
  | c :: cs =>
    if isSlash m c then ([], true) :: pathParts m cs
    else
      match pathParts m cs with
      | [] => [([c], false)]
      | (part, slash) :: parts => (c :: part, slash) :: parts

/-- The path that a text leads to from the start. -/
def pathFromStart (m : Manner) (cs : List Char) : List Char :=
  (pathParts m cs).foldl (fun path (part, slash) =>
    let entered := enter m path (Http.percentEncode isPathChar part)
    if slash && !(isSingleDot part || isDoubleDot part) then entered ++ ['/'] else entered) ['/']

/-! ### Extending -/

/-- Adds a segment of any characters to a path. A segment of one or two dots is passed over,
unless ignored characters stand beside the dots. -/
def addSegment (m : Manner) (path : List Char) (segment : String) : List Char :=
  if segment = "." || segment = ".." then path
  else
    let path := if path = ['/'] then path else path ++ ['/']
    settled m <|
      enter m path (Http.percentEncode (isSegmentChar m) (segment.toList.filter (!isIgnored ·)))

/-- A path that ends in a slash, without that slash unless it is the first. -/
def withoutLastSlash : List Char → List Char
  | ['/'] => ['/']
  | path => path.dropLast

/-- An address with segments added to its path, in place of an empty last one. -/
def extend (u : Url) (segments : List String) : Url :=
  let path := u.path.toList
  let path := if path.getLast? = some '/' then withoutLastSlash path else path
  { u with path := String.ofList (segments.foldl (addSegment (manner u.scheme)) path) }

end OrderDesk.Url
