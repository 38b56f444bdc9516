import NetInventory.Text.Blank
import NetInventory.Text.Hex

/-! Hardware addresses. A device is known by its address in lower case; a sighting may carry it in
any case and with white space around it, or not at all.
-/

namespace NetInventory.Mac

/-- The address that stands for an unknown one. -/
def zero : String :=
  "00:00:00:00:00:00"

/-- Whether a character is a hexadecimal digit in either case. -/
def isHexDigit (c : Char) : Bool :=
  (Text.hexValue? c).isSome

/-- Whether a text is a number of octets, each of two digits behind a colon. -/
def isOctets : Nat → List Char → Bool
  | 0, text => text.isEmpty
  | n + 1, ':' :: high :: low :: rest => isHexDigit high && isHexDigit low && isOctets n rest
  | _ + 1, _ => false

/-- Whether a text is an address: six octets with colons between. -/
def isAddress (text : String) : Bool :=
  isOctets 6 (':' :: text.toList)

/-- Whether a text is the address that stands for an unknown one. -/
def isZero (text : String) : Bool :=
  text = zero

/-- A text with the ASCII letters in lower case. -/
def lowerCase (text : String) : String :=
  .ofList (text.toList.map Char.toLower)

/-- The address under which a device is known, or empty text if there is none. Fails with the
text without the white space around it if that is no address.
-/
def normalize (text : String) : Except String String :=
  let address := Text.trim text
  if address.isEmpty then .ok ""
  else if isAddress address then .ok (lowerCase address)
  else .error address

end NetInventory.Mac
