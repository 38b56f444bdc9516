/-! White space in the sense of the Unicode property of that name, and trimming by it. -/

namespace NetInventory.Text

/-- The characters of the Unicode property `White_Space`: the ASCII blanks, the next-line
control, the no-break and figure spaces, the line and paragraph separators and the
ideographic space.
-/
def isBlank (c : Char) : Bool :=
  let n := c.toNat
  (0x09 ≤ n && n ≤ 0x0D) || n == 0x20 || n == 0x85 || n == 0xA0 || n == 0x1680
    || (0x2000 ≤ n && n ≤ 0x200A) || n == 0x2028 || n == 0x2029 || n == 0x202F
    || n == 0x205F || n == 0x3000

/-- Removes the white space in front. -/
def trimStart (text : List Char) : List Char :=
  text.dropWhile isBlank

/-- Removes the white space at the end. -/
def trimEnd (text : List Char) : List Char :=
  (text.reverse.dropWhile isBlank).reverse

/-- Removes the white space at both ends. -/
def trim (text : String) : String :=
  .ofList (trimEnd (trimStart text.toList))

end NetInventory.Text
