/-! Whole numbers in decimal digits: reading them with and without a sign, and writing them with
a least number of digits.
-/

namespace NetInventory.Text

/-- The value of a run of decimal digits, most significant first. -/
def digitsValue (digits : List Char) : Nat :=
  digits.foldl (fun value c => value * 10 + (c.toNat - '0'.toNat)) 0

/-- The value of a text that is decimal digits throughout and has at least one. -/
def readDigits? (text : List Char) : Option Nat :=
  if text.isEmpty || !text.all Char.isDigit then none else some (digitsValue text)

/-- Reads a number that may not be negative: digits, with an optional plus sign in front. -/
def readNatural? (text : String) : Option Nat :=
  match text.toList with
  | '+' :: digits => readDigits? digits
  | digits => readDigits? digits

/-- Reads a number that may be negative: digits, with an optional sign in front. -/
def readInteger? (text : String) : Option Int :=
  match text.toList with
  | '-' :: digits => (readDigits? digits).map (fun n => -(n : Int))
  | '+' :: digits => (readDigits? digits).map (fun n => (n : Int))
  | digits => (readDigits? digits).map (fun n => (n : Int))

/-- The decimal digits of a number, with zeros in front up to a given width. -/
def padded (width n : Nat) : String :=
  let digits := Nat.toDigits 10 n
  .ofList (List.replicate (width - digits.length) '0' ++ digits)

end NetInventory.Text
