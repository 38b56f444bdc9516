import NetInventory.Text.Decimal

/-! What is said to be wrong with a JSON text. The position of the fault stands behind its
description, as the number of a line and of a column.
-/

namespace NetInventory.Json

/-- A position in a text. Lines are counted from one. -/
structure Position where
  line : Nat
  column : Nat
deriving DecidableEq, Repr

namespace Position

/-- What stands in front of the number of the line. -/
def lineMark : String :=
  " at line "

/-- What stands in front of the number of the column. -/
def columnMark : String :=
  " column "

/-- The number that decimal digits stand for, if it fits into 64 bits. -/
def number? (digits : List Char) : Option Nat :=
  (Text.readDigits? digits).filter (· < UInt64.size)

/-- What stands behind a mark that a text begins with. -/
def behind? (mark : String) (text : List Char) : Option (List Char) :=
  if mark.toList.isPrefixOf text then some (text.drop mark.length) else none

/-- Reads a position that takes up a whole text. -/
def ofText? (text : List Char) : Option Position := do
  let rest ← behind? lineMark text
  let line ← number? (rest.takeWhile Char.isDigit)
  let digits ← behind? columnMark (rest.dropWhile Char.isDigit)
  let column ← number? digits
  return ⟨line, column⟩

/-- The wording of a position. -/
def text (position : Position) : String :=
  lineMark ++ toString position.line ++ columnMark ++ toString position.column

end Position

/-- What is wrong with a JSON text, and where if that is known. -/
structure Complaint where
  description : String
  position : Option Position
deriving DecidableEq, Repr

namespace Complaint

/-- Splits a text that ends in a position. The mark of the line is in it once only from there on, so
there is no other way to split it.
-/
def split? : List Char → Option (List Char × Position)
  | [] => none
  | c :: rest =>
    match Position.ofText? (c :: rest) with
    | some position => some ([], position)
    | none => (split? rest).map fun (front, position) => (c :: front, position)

/-- The complaint of a wording. One that ends in line zero tells no position. -/
def ofText (text : String) : Complaint :=
  match split? text.toList with
  | none => ⟨text, none⟩
  | some (front, position) => ⟨.ofList front, if position.line = 0 then none else some position⟩

/-- The wording of a complaint. -/
def text (complaint : Complaint) : String :=
  complaint.description ++ (complaint.position.map (·.text)).getD ""

end Complaint

end NetInventory.Json
