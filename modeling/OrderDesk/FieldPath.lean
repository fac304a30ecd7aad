/-!
# Field paths

A path names a place inside a record: segments joined by points, the first at the top level. A
path leads below another if it continues it with a point.
-/

namespace OrderDesk.FieldPath

/-- The parts of a list between separators. -/
def split (separator : Char) : List Char → List (List Char)
  | [] => [[]]
  | c :: cs =>
    if c = separator then [] :: split separator cs
    else
      match split separator cs with
      | [] => [[c]]
      | part :: parts => (c :: part) :: parts

/-- The segments of a path. -/
def segments (path : String) : List String := (split '.' path.toList).map String.ofList

/-- The first segment of a path. -/
def top (path : String) : String := (segments path).headD path

/-- Whether a path leads to a place below another one. -/
def isBelow (path parent : String) : Bool := (parent.toList ++ ['.']).isPrefixOf path.toList

theorem split_ne_nil (separator : Char) (cs : List Char) : split separator cs ≠ [] := by
  cases cs with
  | nil => simp [split]
  | cons c cs =>
    unfold split
    split
    · simp
    · split <;> simp

end OrderDesk.FieldPath
