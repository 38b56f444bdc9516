/-! The words that protocols are made of: runs of letters, digits and certain signs. -/

namespace NetInventory.Text

/-- Whether a character is an ASCII letter, an ASCII digit or one of the signs that stand in
tokens.
-/
def isTokenChar (c : Char) : Bool :=
  c.isAlphanum
    || ['!', '#', '$', '%', '&', '\x27', '*', '+', '-', '.', '^', '_', '\x60', '|', '~'].contains c

/-- Whether a text is a token. -/
def isToken (text : String) : Bool :=
  !text.isEmpty && text.toList.all isTokenChar

end NetInventory.Text
