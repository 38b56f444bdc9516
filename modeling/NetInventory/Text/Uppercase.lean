import NetInventory.Text.CaseTable

/-! Upper case by the full mapping of the Unicode standard, where one character can become
several: a sharp s becomes two letters, a ligature its parts. No language and no surrounding
text is taken into account.
-/

namespace NetInventory.Text

/-- Where the run sends a character, if the character belongs to it. -/
def CaseRun.map? (run : CaseRun) (n : Nat) : Option Nat :=
  if run.first ≤ n && n ≤ run.last && (n - run.first) % run.step == 0 then
    some ((n : Int) + run.shift).toNat
  else
    none

/-- The upper-case form of one character; a character without one stands for itself. -/
def upperChar (c : Char) : List Char :=
  let n := c.toNat
  if n < 0x80 then
    [c.toUpper]
  else
    match caseExpansions.lookup n with
    | some expansion => expansion.map .ofNat
    | none => [((caseRuns.findSome? (·.map? n)).map .ofNat).getD c]

/-- The upper-case form of a text, character by character. -/
def toUpper (text : String) : String :=
  .ofList (text.toList.flatMap upperChar)

end NetInventory.Text
