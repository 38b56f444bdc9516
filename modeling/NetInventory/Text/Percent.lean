import NetInventory.Text.Hex
import NetInventory.Text.Utf8

/-! Percent-encoded bytes as they stand in a URL, and the name and value pairs of a query. -/

namespace NetInventory.Percent

/-- The value of a hexadecimal digit given as a byte. -/
def hexValue? (b : UInt8) : Option UInt8 :=
  (Text.hexValue? (.ofNat b.toNat)).map .ofNat

/-- Replaces each percent sign that two hexadecimal digits follow by the byte they name; any
other percent sign stands for itself.
-/
def decode : List UInt8 → List UInt8
  | 0x25 :: high :: low :: rest =>
    match hexValue? high, hexValue? low with
    | some h, some l => (h * 16 + l) :: decode rest
    | _, _ => 0x25 :: decode (high :: low :: rest)
  | b :: rest => b :: decode rest
  | [] => []

/-- The text that a percent-encoded text names, if its bytes are text. -/
def decodeText? (text : String) : Option String :=
  Utf8.text? (decode text.toUTF8.toList).toByteArray

/-- The text of a name or value in a query: a plus sign is a space, percent-encoded bytes are
decoded, and bytes that are no text are replaced.
-/
def decodeField (field : List UInt8) : String :=
  Utf8.textLossy (decode (field.map (fun b => if b = 0x2B then 0x20 else b))).toByteArray

/-- Splits at every ampersand. -/
def splitFields : List UInt8 → List (List UInt8)
  | [] => [[]]
  | b :: rest =>
    if b = 0x26 then
      [] :: splitFields rest
    else
      match splitFields rest with
      | first :: later => (b :: first) :: later
      | [] => [[b]]

/-- The pairs of a query in their order. A field without an equals sign has an empty value, and
empty fields do not count.
-/
def queryPairs (query : String) : List (String × String) :=
  (splitFields query.toUTF8.toList).filter (!·.isEmpty) |>.map fun field =>
    let name := field.takeWhile (· ≠ 0x3D)
    let value := (field.dropWhile (· ≠ 0x3D)).drop 1
    (decodeField name, decodeField value)

end NetInventory.Percent
