import NetInventory.Text.Token

/-! The targets of requests. A target is a path with a query, or a full address with a scheme and
an authority in front of them; either may end in a fragment, which does not count.
-/

namespace NetInventory.Control

/-- How far an authority has been read. -/
structure AuthorityScan where
  /-- The colons behind the user and behind an address in brackets. -/
  colons : Nat
  opened : Bool
  closed : Bool
  /-- Whether there is a percent sign where a name or a port is expected. -/
  escaped : Bool
  /-- Whether the last character ends the user. -/
  endsUser : Bool
deriving DecidableEq, Repr

namespace AuthorityScan

/-- Nothing read. -/
def start : AuthorityScan :=
  ⟨0, false, false, false, false⟩

/-- The greatest number of colons in a row of groups and a port. -/
def colonLimit : Nat :=
  8

/-- Whether a character stands in names, users and ports. -/
def isNameChar (c : Char) : Bool :=
  c.isAlphanum
    || ['!', '$', '&', '\x27', '(', ')', '*', '+', ',', '-', '.', ';', '=', '_', '~'].contains c

/-- Reads a character. What stood in front of an `@` was the user, and what stood in brackets an
address; neither counts any more.
-/
def read? (scan : AuthorityScan) (c : Char) : Option AuthorityScan :=
  let scan := { scan with endsUser := false }
  match c with
  | ':' => if scan.colons < colonLimit then some { scan with colons := scan.colons + 1 } else none
  | '[' => if scan.escaped || scan.opened then none else some { scan with opened := true }
  | ']' =>
    if scan.opened && !scan.closed then
      some { scan with closed := true, colons := 0, escaped := false }
    else none
  | '@' => some { scan with colons := 0, escaped := false, endsUser := true }
  | '%' => some { scan with escaped := true }
  | c => if isNameChar c then some scan else none

/-- Whether the authority may end here. -/
def isComplete (scan : AuthorityScan) : Bool :=
  scan.opened = scan.closed && scan.colons ≤ 1 && !scan.endsUser && !scan.escaped

/-- Whether a text is an authority. -/
def accepts (text : List Char) : Bool :=
  (text.foldlM read? start).any isComplete

end AuthorityScan

/-- The target of a request. -/
structure Uri where
  path : String
  query : Option String
deriving DecidableEq, Repr

namespace Uri

/-- The greatest number of bytes in a target. -/
def lengthLimit : Nat :=
  65534

/-- The greatest number of characters in a scheme. -/
def schemeLimit : Nat :=
  64

/-- Whether a character can be seen, or lies beyond ASCII. -/
def isVisible (c : Char) : Bool :=
  '!' ≤ c && c ≠ '\x7f'

/-- Whether a character stands in paths. Those that usually surround or end a target do not. -/
def isPathChar (c : Char) : Bool :=
  isVisible c && !(['#', '<', '>', '?', '\x60'].contains c)

/-- Whether a character stands in queries. -/
def isQueryChar (c : Char) : Bool :=
  isVisible c && !(['\x22', '#', '<', '>'].contains c)

/-- Whether a character stands in schemes. -/
def isSchemeChar (c : Char) : Bool :=
  c.isAlphanum || ['+', '-', '.', '~'].contains c

/-- Whether a text is empty or a fragment. -/
def endsTarget : List Char → Bool
  | [] => true
  | c :: _ => c = '#'

/-- Reads a path and a query. No path is the path of the root. -/
def ofPathAndQuery? (text : List Char) : Option Uri :=
  let path := text.takeWhile isPathChar
  let path := if path.isEmpty then "/" else .ofList path
  match text.dropWhile isPathChar with
  | '?' :: rest =>
    if endsTarget (rest.dropWhile isQueryChar) then
      some ⟨path, some (.ofList (rest.takeWhile isQueryChar))⟩
    else none
  | rest => if endsTarget rest then some ⟨path, none⟩ else none

/-- The number of characters of the scheme, if the text begins with one and `://`. -/
def schemeLength? (text : List Char) : Option Nat :=
  let scheme := text.takeWhile isSchemeChar
  if (text.drop scheme.length).take 3 = [':', '/', '/'] then some scheme.length else none

/-- Reads an authority alone, which has no path. -/
def ofAuthority? (text : List Char) : Option Uri :=
  if AuthorityScan.accepts text then some ⟨"", none⟩ else none

/-- Reads what follows a scheme: an authority, and a path and a query. -/
def ofAuthorityAndPath? (text : List Char) : Option Uri :=
  let isInside (c : Char) := c ≠ '/' && c ≠ '?' && c ≠ '#'
  let authority := text.takeWhile isInside
  if !authority.isEmpty && AuthorityScan.accepts authority then
    ofPathAndQuery? (text.dropWhile isInside)
  else none

/-- The target that a text names. An asterisk stands for the service as a whole. -/
def ofText? (text : String) : Option Uri :=
  if lengthLimit < text.utf8ByteSize then none
  else
    match text.toList with
    | [] => none
    | ['*'] => some ⟨"*", none⟩
    | '/' :: rest => ofPathAndQuery? ('/' :: rest)
    | chars =>
      match schemeLength? chars with
      | some length =>
        if length ≤ schemeLimit then ofAuthorityAndPath? (chars.drop (length + 3)) else none
      | none => ofAuthority? chars

end Uri

end NetInventory.Control
