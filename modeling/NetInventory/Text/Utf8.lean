/-! Byte strings read as text. A byte string need not be text throughout: a reading keeps the
characters and marks each byte that belongs to none, so that a reader can pass over a broken
stretch without losing its place.
-/

namespace NetInventory.Utf8

/-- A character, or nothing for a byte that is part of no character. -/
abbrev Symbol :=
  Option Char

/-- The symbols from a position on: the character that is encoded there, or one stray byte. -/
def symbolsFrom (bytes : ByteArray) (position : Nat) : List Symbol :=
  if position < bytes.size then
    match bytes.utf8DecodeChar? position with
    | some c => some c :: symbolsFrom bytes (position + c.utf8Size)
    | none => none :: symbolsFrom bytes (position + 1)
  else
    []
termination_by bytes.size - position
decreasing_by
  · have := c.utf8Size_pos
    omega
  · omega

/-- The symbols of a byte string. -/
def symbols (bytes : ByteArray) : List Symbol :=
  symbolsFrom bytes 0

/-- The text of a byte string, if it is text throughout. -/
def text? (bytes : ByteArray) : Option String :=
  String.fromUTF8? bytes

/-- The text of a byte string, with the replacement character for every stray byte. -/
def textLossy (bytes : ByteArray) : String :=
  .ofList ((symbols bytes).map (·.getD '\uFFFD'))

end NetInventory.Utf8
