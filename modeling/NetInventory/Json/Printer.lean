import NetInventory.Json.Basic
import NetInventory.Text.Hex

/-! The text of a JSON value: no blanks, members in their order, and escapes only where the
grammar of strings demands one.
-/

namespace NetInventory.Json

/-- How one character stands in a string: the quote and the backslash behind a backslash, a
control character below the blank by its short escape or its number, any other as it is.
-/
def escapeChar (c : Char) : List Char :=
  if c = '\x22' then ['\x5c', '\x22']
  else if c = '\x5c' then ['\x5c', '\x5c']
  else if c = '\x08' then ['\x5c', 'b']
  else if c = '\x0c' then ['\x5c', 'f']
  else if c = '\x0a' then ['\x5c', 'n']
  else if c = '\x0d' then ['\x5c', 'r']
  else if c = '\x09' then ['\x5c', 't']
  else if c.toNat < 0x20 then
    ['\x5c', 'u', '0', '0', Text.hexDigit (c.toNat / 16), Text.hexDigit (c.toNat % 16)]
  else [c]

/-- A string between its quotes. -/
def stringChars (text : String) : List Char :=
  '\x22' :: text.toList.flatMap escapeChar ++ ['\x22']

/-- The decimal digits of a whole number, behind a minus sign if it is negative. -/
def integerChars (value : Int) : List Char :=
  if value < 0 then '-' :: Nat.toDigits 10 value.natAbs else Nat.toDigits 10 value.natAbs

/-- The text of a number. -/
def numberChars : Number → List Char
  | .integer value => integerChars value
  | .real literal => literal.toList

mutual

/-- The characters of a value. -/
def chars : Json → List Char
  | .null => ['n', 'u', 'l', 'l']
  | .bool true => ['t', 'r', 'u', 'e']
  | .bool false => ['f', 'a', 'l', 's', 'e']
  | .number value => numberChars value
  | .string value => stringChars value
  | .array items => '[' :: itemsChars items ++ [']']
  | .object members => '\x7b' :: membersChars members ++ ['\x7d']

/-- The characters of the items of an array, with commas between. -/
def itemsChars : List Json → List Char
  | [] => []
  | [item] => chars item
  | item :: next :: rest => chars item ++ ',' :: itemsChars (next :: rest)

/-- The characters of the members of an object, with commas between. -/
def membersChars : List (String × Json) → List Char
  | [] => []
  | [(name, value)] => stringChars name ++ ':' :: chars value
  | (name, value) :: next :: rest =>
    stringChars name ++ ':' :: chars value ++ ',' :: membersChars (next :: rest)

end

/-- The text of a value. -/
def render (json : Json) : String :=
  .ofList json.chars

/-- The text of a value as bytes. -/
def toBytes (json : Json) : ByteArray :=
  json.render.toUTF8

end NetInventory.Json
