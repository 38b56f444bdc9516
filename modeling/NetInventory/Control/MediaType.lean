import NetInventory.Text.Token

/-! Media types: what kind of content a body is said to be. -/

namespace NetInventory.Control

/-- A media type without its parameters. -/
structure MediaType where
  kind : String
  subtype : String
  /-- What stands behind the last plus sign: the format that the type is built on. -/
  suffix : Option String
deriving DecidableEq, Repr

/-- How far the parameters of a media type have been read. A flag tells whether the part at hand
is empty so far.
-/
inductive ParameterScan where
  | name (isEmpty : Bool)
  | value (isEmpty : Bool)
  | quoted (isEmpty : Bool)
  /-- A value in quotes has ended. -/
  | afterQuote
deriving DecidableEq, Repr

namespace ParameterScan

/-- Reads a character. -/
def read? : ParameterScan → Char → Option ParameterScan
  | name isEmpty, c =>
    if Text.isTokenChar c then some (name false)
    else if c = ' ' && isEmpty then some (name true)
    else if c = '=' && !isEmpty then some (value true)
    else none
  | value isEmpty, c =>
    if Text.isTokenChar c then some (value false)
    else if c = '\x22' && isEmpty then some (quoted true)
    else if c = ';' && !isEmpty then some (name true)
    else none
  | quoted isEmpty, c =>
    if c = '\x22' && !isEmpty then some afterQuote
    else if ' ' ≤ c && c ≤ '~' then some (quoted false)
    else none
  | afterQuote, c =>
    if c = ';' then some (name true)
    else if c = ' ' then some afterQuote
    else none

/-- Whether the parameters may end here. -/
def isComplete : ParameterScan → Bool
  | name isEmpty => isEmpty
  | value _ => true
  | quoted _ => false
  | afterQuote => true

/-- Whether a text is the parameters behind the first semicolon. -/
def accepts (text : List Char) : Bool :=
  (text.foldlM read? (name true)).any isComplete

end ParameterScan

namespace MediaType

/-- Splits a name at its last plus sign, unless that is the first character. -/
def splitSuffix (name : List Char) : List Char × Option (List Char) :=
  let back := name.reverse.takeWhile (· ≠ '+')
  let front := name.take (name.length - back.length - 1)
  if back.length < name.length && !front.isEmpty then (front, some back.reverse) else (name, none)

/-- Names of types are told apart without regard to case. -/
def lower (name : List Char) : String :=
  .ofList (name.map Char.toLower)

/-- The media type that a text names: a kind, a slash and a name, and parameters behind them. -/
def ofText? (text : String) : Option MediaType :=
  let kind := text.toList.takeWhile Text.isTokenChar
  match text.toList.dropWhile Text.isTokenChar with
  | '/' :: rest =>
    let name := rest.takeWhile Text.isTokenChar
    let (subtype, suffix) := splitSuffix name
    let type : MediaType := ⟨lower kind, lower subtype, suffix.map lower⟩
    if kind.isEmpty then none
    else
      match rest.dropWhile Text.isTokenChar with
      | [] => some type
      | ';' :: parameters =>
        if !name.isEmpty && ParameterScan.accepts parameters then some type else none
      | _ => none
  | _ => none

/-- Whether content of a type is JSON: it is named so, or built on it. -/
def isJson (type : MediaType) : Bool :=
  type.kind = "application" && (type.subtype = "json" || type.suffix = some "json")

end MediaType

end NetInventory.Control
