import NetInventory.Json.Token

/-! JSON values as they are read. A draft holds what its text says up to the place where the text
breaks off, so that a reader that looks for a particular shape can tell which comes first: a
value that does not fit the shape, or the end of what can be read.
-/

namespace NetInventory.Json

/-- A JSON value that may break off. -/
inductive Draft where
  | null
  | bool (value : Bool)
  | number (value : Option Number)
  | string (value : Option String)
  | array (items : List Draft)
  /-- Members in their order. A name is missing if it cannot be kept, or if the text breaks off in
  front of it. -/
  | object (members : List (Option String × Draft))
  /-- The text breaks off here. -/
  | broken

instance : Inhabited Draft :=
  ⟨.broken⟩

namespace Draft

/-- An array or object whose end has not come yet, with what it holds so far, last first. -/
inductive Frame where
  | array (items : List Draft)
  /-- An object, with the name of the member whose value is to come. -/
  | object (members : List (Option String × Draft)) (name : Option String)

/-- What may come next. -/
inductive Expectation where
  /-- A value. -/
  | value
  /-- A value, or the end of an array that holds none. -/
  | firstItem
  /-- A comma, or the end of what is open. -/
  | next
  /-- The name of a member. -/
  | name
  /-- The name of a member, or the end of an object that holds none. -/
  | firstName
  /-- A colon. -/
  | colon

/-- A value on the way: open arrays and objects, innermost first, and what may come next; or the
value when it is done.
-/
inductive Progress where
  | reading (frames : List Frame) (expectation : Expectation)
  | done (draft : Draft)

/-- Puts a value into the innermost open array or object. -/
def Frame.add (frame : Frame) (draft : Draft) : Frame :=
  match frame with
  | .array items => .array (draft :: items)
  | .object members name => .object ((name, draft) :: members) none

/-- The value of an array or object at its end. -/
def Frame.close : Frame → Draft
  | .array items => .array items.reverse
  | .object members _ => .object members.reverse

/-- Goes on behind a value. -/
def supply (frames : List Frame) (draft : Draft) : Progress :=
  match frames with
  | [] => .done draft
  | frame :: outer => .reading (frame.add draft :: outer) .next

/-- The value that is left when the text breaks off: the break stands as the last part of every
open array and object.
-/
def breakOff (frames : List Frame) : Draft :=
  frames.foldl (fun draft frame => (frame.add draft).close) .broken

/-- Goes on with a word where a value may stand. -/
def begin (frames : List Frame) (token : Token) : Progress :=
  match token with
  | .null => supply frames .null
  | .bool value => supply frames (.bool value)
  | .number value => supply frames (.number value)
  | .string value => supply frames (.string value)
  | .openArray => .reading (.array [] :: frames) .firstItem
  | .openObject => .reading (.object [] none :: frames) .firstName
  | _ => .done (breakOff frames)

/-- Goes on with a word. -/
def advance (frames : List Frame) (expectation : Expectation) (token : Token) : Progress :=
  match expectation, frames, token with
  | .firstItem, .array [] :: outer, .closeArray => supply outer (.array [])
  | .firstName, .object [] _ :: outer, .closeObject => supply outer (.object [])
  | .value, _, _ | .firstItem, _, _ => begin frames token
  | .name, .object members _ :: outer, .string name
  | .firstName, .object members _ :: outer, .string name =>
    .reading (.object members name :: outer) .colon
  | .colon, _, .colon => .reading frames .value
  | .next, .array _ :: _, .comma => .reading frames .value
  | .next, .object _ _ :: _, .comma => .reading frames .name
  | .next, .array items :: outer, .closeArray => supply outer (Frame.array items).close
  | .next, .object members name :: outer, .closeObject =>
    supply outer (Frame.object members name).close
  | _, _, _ => .done (breakOff frames)

/-- Reads a value to its end; gives the words behind it too. -/
def readFrom : Progress → List Token → Draft × List Token
  | .done draft, tokens => (draft, tokens)
  | .reading frames _, [] => (breakOff frames, [])
  | .reading frames expectation, token :: rest =>
    readFrom (advance frames expectation token) rest

/-- Reads the first value of a text; gives the words behind it too. -/
def read (tokens : List Token) : Draft × List Token :=
  readFrom (.reading [] .value) tokens

mutual

/-- Whether the text of a value does not break off. -/
def intact : Draft → Bool
  | .broken => false
  | .array items => allIntact items
  | .object members => membersIntact members
  | _ => true

/-- Whether the text of no item breaks off. -/
def allIntact : List Draft → Bool
  | [] => true
  | item :: rest => intact item && allIntact rest

/-- Whether the text of no member breaks off. -/
def membersIntact : List (Option String × Draft) → Bool
  | [] => true
  | (_, value) :: rest => intact value && membersIntact rest

end

mutual

/-- The draft of a value that is there already. -/
def ofJson : Json → Draft
  | .null => .null
  | .bool value => .bool value
  | .number value => .number (some value)
  | .string value => .string (some value)
  | .array items => .array (ofItems items)
  | .object members => .object (ofMembers members)

/-- The drafts of the items of an array. -/
def ofItems : List Json → List Draft
  | [] => []
  | item :: rest => ofJson item :: ofItems rest

/-- The drafts of the members of an object. -/
def ofMembers : List (String × Json) → List (Option String × Draft)
  | [] => []
  | (name, value) :: rest => (some name, ofJson value) :: ofMembers rest

end

end Draft

end NetInventory.Json
