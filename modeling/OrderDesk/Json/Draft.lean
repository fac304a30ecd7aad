import OrderDesk.Json.Lexer

/-!
# What a JSON text says, as far as it can be read

Every text has a draft. Where the text breaks off or goes wrong, the draft ends: the containers
open there are not closed. A reader that walks a draft in order therefore meets whatever comes
first in the text, be it a value that it cannot use or the place where the text goes wrong.
Members stand as written, repeated names included.
-/

namespace OrderDesk.Json

inductive Draft where
  | null
  | boolean (b : Bool)
  | number (n : Number)
  | string (s : String)
  /-- A scalar that may be passed over but stands for no value. -/
  | unreadable
  | array (items : List Draft) (closed : Bool)
  /-- Members, where a name that stands for no text is `none`. -/
  | object (members : List (Option String × Draft)) (closed : Bool)
  /-- The place where the text goes wrong. -/
  | broken

/-- A text: the draft of its first value, and whether nothing follows it. -/
structure Reading where
  root : Draft
  ended : Bool

namespace Draft

def ofScalar : Scalar → Draft
  | .null => null
  | .boolean b => boolean b
  | .number n => number n
  | .string s => string s
  | .unreadable => unreadable

/-- A container part way through, the newest part first. -/
inductive Frame where
  | items (done : List Draft)
  | members (done : List (Option String × Draft)) (name : Option String)

/-- What may come next. -/
inductive Expected where
  | value
  | valueOrEnd
  | name
  | nameOrEnd
  | colon
  | separator

/-- Ends the open containers where the text goes wrong, the innermost around `inner`. -/
def abandon (inner : Draft) : List Frame → Draft
  | [] => inner
  | .items done :: frames => abandon (array (inner :: done).reverse false) frames
  | .members done name :: frames => abandon (object ((name, inner) :: done).reverse false) frames

/-- Ends the innermost container without a further part. -/
def breakOff : List Frame → Draft
  | [] => broken
  | .items done :: frames => abandon (array done.reverse false) frames
  | .members done _ :: frames => abandon (object done.reverse false) frames

/-- Adds a finished value to the innermost container. -/
def addTo (value : Draft) : Frame → Frame
  | .items done => .items (value :: done)
  | .members done name => .members ((name, value) :: done) none

/-- Reads tokens into the open containers. -/
def assemble : List Frame → Expected → List Token → Reading
  | frames, expected, [] =>
    match expected with
    | .value | .valueOrEnd | .colon => ⟨abandon broken frames, true⟩
    | _ => ⟨breakOff frames, true⟩
  | frames, expected, t :: rest =>
    match expected, t, frames with
    | .value, .scalar s, frames => finish (ofScalar s) frames rest
    | .valueOrEnd, .scalar s, frames => finish (ofScalar s) frames rest
    | .value, .openArray, frames => assemble (.items [] :: frames) .valueOrEnd rest
    | .valueOrEnd, .openArray, frames => assemble (.items [] :: frames) .valueOrEnd rest
    | .value, .openObject, frames => assemble (.members [] none :: frames) .nameOrEnd rest
    | .valueOrEnd, .openObject, frames => assemble (.members [] none :: frames) .nameOrEnd rest
    | .valueOrEnd, .closeArray, .items done :: frames =>
      finish (array done.reverse true) frames rest
    | .name, .scalar (.string s), .members done _ :: frames =>
      assemble (.members done (some s) :: frames) .colon rest
    | .nameOrEnd, .scalar (.string s), .members done _ :: frames =>
      assemble (.members done (some s) :: frames) .colon rest
    | .name, .scalar .unreadable, .members done _ :: frames =>
      assemble (.members done none :: frames) .colon rest
    | .nameOrEnd, .scalar .unreadable, .members done _ :: frames =>
      assemble (.members done none :: frames) .colon rest
    | .nameOrEnd, .closeObject, .members done _ :: frames =>
      finish (object done.reverse true) frames rest
    | .colon, .colon, frames => assemble frames .value rest
    | .separator, .comma, .items done :: frames => assemble (.items done :: frames) .value rest
    | .separator, .comma, .members done name :: frames =>
      assemble (.members done name :: frames) .name rest
    | .separator, .closeArray, .items done :: frames => finish (array done.reverse true) frames rest
    | .separator, .closeObject, .members done _ :: frames =>
      finish (object done.reverse true) frames rest
    | .value, _, frames | .valueOrEnd, _, frames | .colon, _, frames =>
      ⟨abandon broken frames, true⟩
    | _, _, frames => ⟨breakOff frames, true⟩
where
  /-- Puts a finished value where it belongs. -/
  finish (value : Draft) (frames : List Frame) (rest : List Token) : Reading :=
    match frames with
    | [] => ⟨value, rest.isEmpty⟩
    | frame :: frames => assemble (addTo value frame :: frames) .separator rest

mutual

/-- Whether a draft holds no place where the text goes wrong. -/
def whole : Draft → Bool
  | array items closed => wholeItems items && closed
  | object members closed => wholeMembers members && closed
  | broken => false
  | _ => true

def wholeItems : List Draft → Bool
  | [] => true
  | item :: items => item.whole && wholeItems items

def wholeMembers : List (Option String × Draft) → Bool
  | [] => true
  | member :: members => wholeMember member && wholeMembers members

def wholeMember : Option String × Draft → Bool
  | (_, value) => value.whole

end

end Draft

/-- The draft of a text. -/
def draft (text : String) : Reading := Draft.assemble [] .value (tokens text.toList)

end OrderDesk.Json
