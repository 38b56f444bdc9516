import NetInventory.Json.Basic
import NetInventory.Text.Decimal

/-! Number literals of JSON: their grammar, and what is kept of one. A literal is whole and fits
64 bits, or it names a real number; a real number is refused when it lies beyond the range of
binary floating point with 64 bits.
-/

namespace NetInventory.Json

open NetInventory.Text (digitsValue)

/-- The parts of a number literal. -/
structure Literal where
  negative : Bool
  whole : List Char
  fraction : List Char
  exponent : Option (Bool × List Char)

/-- Reads an optional part that `marks` introduces and `part` describes: nothing if no mark
stands in front, a failure if a mark stands there and the part does not follow.
-/
def optionalPart {α : Type} (absent : α) (marks : Char → Bool)
    (part : List Char → Option (α × List Char)) (text : List Char)
    : Option (α × List Char) :=
  match text with
  | c :: rest => if marks c then part rest else some (absent, text)
  | [] => some (absent, text)

/-- Reads a run of at least one digit. -/
def digitRun? (text : List Char) : Option (List Char × List Char) :=
  match text.takeWhile Char.isDigit with
  | [] => none
  | digits => some (digits, text.dropWhile Char.isDigit)

/-- Reads the digits in front of the point, which start with zero only if it stands alone. -/
def wholePart? (text : List Char) : Option (List Char × List Char) :=
  match digitRun? text with
  | some ('0' :: _ :: _, _) => none
  | result => result

/-- Reads the sign and the digits of an exponent. -/
def exponentPart? : List Char → Option (Option (Bool × List Char) × List Char)
  | '+' :: rest => (digitRun? rest).map fun (digits, rest) => (some (false, digits), rest)
  | '-' :: rest => (digitRun? rest).map fun (digits, rest) => (some (true, digits), rest)
  | rest => (digitRun? rest).map fun (digits, rest) => (some (false, digits), rest)

/-- Reads the longest number literal in front of a text. -/
def Literal.read? (text : List Char) : Option (Literal × List Char) := do
  let (negative, rest) :=
    match text with
    | '-' :: rest => (true, rest)
    | rest => (false, rest)
  let (whole, rest) ← wholePart? rest
  let (fraction, rest) ← optionalPart [] (· = '.') digitRun? rest
  let (exponent, rest) ← optionalPart none (fun c => c = 'e' || c = 'E') exponentPart? rest
  return (⟨negative, whole, fraction, exponent⟩, rest)

/-- The first number that does not fit 64 bits. -/
def wordBound : Nat :=
  UInt64.size

/-- Takes up digits while the number they form fits 64 bits. The second component counts how
many digits of `digits` were taken up.
-/
def leadingDigits (value taken : Nat) : List Char → Nat × Nat
  | [] => (value, taken)
  | c :: rest =>
    let next := value * 10 + (c.toNat - '0'.toNat)
    if next < wordBound then leadingDigits next (taken + 1) rest else (value, taken)

/-- The multiple of a power of two with 53 significant bits that is nearest to a number; of two
equally near the one with an even last bit.
-/
def roundToDouble (n : Nat) : Nat :=
  let unit := 1 <<< (n.log2 - 52)
  let quotient := n / unit
  let twice := 2 * (n % unit)
  if unit < twice || (twice = unit && quotient % 2 = 1) then (quotient + 1) * unit
  else quotient * unit

/-- The least number that rounds beyond the largest finite double. -/
def doubleBound : Nat :=
  (1 <<< 1024) - (1 <<< 970)

/-- Whether a significand scaled by a power of ten stays within the range of doubles, where
significand and power are rounded before they are multiplied.
-/
def inDoubleRange (significand : Nat) (scale : Int) : Bool :=
  significand = 0 || scale < 0
    || (scale ≤ 308
      && roundToDouble significand * roundToDouble (Nat.pow 10 scale.toNat) < doubleBound)

namespace Literal

/-- The leading digits of the literal as one whole number, and the power of ten they are counted
in. Digits in front of the point that do not fit count as places; digits behind it are cut.
-/
def scaled (literal : Literal) : Nat × Int :=
  let (value, taken) := leadingDigits 0 0 literal.whole
  let places := literal.whole.length - taken
  let (value, cut) := leadingDigits value 0 literal.fraction
  let exponent : Int :=
    match literal.exponent with
    | none => 0
    | some (negative, digits) =>
      if negative then -(digitsValue digits : Int) else digitsValue digits
  (value, places - cut + exponent)

/-- The characters of the literal. -/
def chars (literal : Literal) : List Char :=
  (if literal.negative then ['-'] else []) ++ literal.whole
    ++ (if literal.fraction.isEmpty then [] else '.' :: literal.fraction)
    ++ (match literal.exponent with
      | none => []
      | some (negative, digits) => 'e' :: (if negative then '-' else '+') :: digits)

/-- What is kept of the literal. A whole number keeps its value if it fits 64 bits, with a sign
if it is negative; minus zero and any other literal keep their text. Nothing is kept beyond
the range of doubles.
-/
def number? (literal : Literal) : Option Number :=
  let magnitude := digitsValue literal.whole
  let plain := literal.fraction.isEmpty && literal.exponent.isNone
  if plain && !literal.negative && magnitude < wordBound then
    some (.integer magnitude)
  else if plain && literal.negative && 0 < magnitude && magnitude ≤ wordBound / 2 then
    some (.integer (-magnitude))
  else
    let (significand, scale) := literal.scaled
    if inDoubleRange significand scale then some (.real (.ofList literal.chars)) else none

end Literal

end NetInventory.Json
