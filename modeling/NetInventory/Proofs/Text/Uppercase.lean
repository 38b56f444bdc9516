import Mathlib.Data.List.DropRight
import NetInventory.Text.Blank
import NetInventory.Text.Uppercase

/-! Upper case and white space. White space is its own upper case, and nothing else becomes white
space or vanishes, so it makes no difference whether a text is trimmed before it is put in upper
case or afterwards. What a character becomes is read off the tables by three cases.
-/

namespace NetInventory.Text

-----------------------------------------------------------------------------------------
-- Single characters
-----------------------------------------------------------------------------------------

/-- The codes of the characters that are white space. -/
private def blankCodes : List Nat :=
  [
    0x09, 0x0A, 0x0B, 0x0C, 0x0D, 0x20, 0x85, 0xA0, 0x1680, 0x2000, 0x2001, 0x2002, 0x2003,
    0x2004, 0x2005, 0x2006, 0x2007, 0x2008, 0x2009, 0x200A, 0x2028, 0x2029, 0x202F, 0x205F, 0x3000
  ]

private theorem toNat_mem_blankCodes {c : Char} (blank : isBlank c = true)
    : c.toNat ∈ blankCodes := by
  simp only [isBlank, Bool.or_eq_true, Bool.and_eq_true, decide_eq_true_eq, beq_iff_eq] at blank
  simp only [blankCodes, List.mem_cons, List.not_mem_nil, or_false]
  omega

/-- White space is its own upper case. -/
theorem upperChar_of_blank {c : Char} (blank : isBlank c = true) : upperChar c = [c] := by
  have fixed : ∀ n ∈ blankCodes, upperChar (.ofNat n) = [.ofNat n] := by decide +kernel
  simpa using fixed c.toNat (toNat_mem_blankCodes blank)

/-- Upper case moves the small letters and nothing else. -/
theorem toNat_toUpper (c : Char)
    : c.toUpper.toNat = if 97 ≤ c.toNat ∧ c.toNat ≤ 122 then c.toNat - 32 else c.toNat := by
  have small : ('a'.val ≤ c.val ∧ c.val ≤ 'z'.val) ↔ (97 ≤ c.toNat ∧ c.toNat ≤ 122) := .rfl
  delta Char.toUpper
  split
  next range =>
    rw [if_pos (small.mp range)]
    have shift : (c.val + ('A'.val - 'a'.val)).toNat = (c.val.toNat + (2 ^ 32 - 32)) % 2 ^ 32 :=
      UInt32.toNat_add ..
    have bound : 97 ≤ c.val.toNat ∧ c.val.toNat ≤ 122 := small.mp range
    have wrapped : (c.val.toNat + (2 ^ 32 - 32)) % 2 ^ 32 = c.val.toNat - 32 := by omega
    exact shift.trans wrapped
  next other => rw [if_neg (mt small.mpr other)]

theorem upperChar_of_ascii {c : Char} (ascii : c.toNat < 0x80) : upperChar c = [c.toUpper] := by
  rw [upperChar, if_pos ascii]

/-- What becomes of a character beyond ASCII: several characters, one that a run sends it to, or the
character itself.
-/
theorem upperChar_cases {c : Char} (wide : 0x80 ≤ c.toNat)
    : (∃ parts, (c.toNat, parts) ∈ caseExpansions ∧ upperChar c = parts.map .ofNat)
      ∨ (∃ run ∈ caseRuns, ∃ n, run.map? c.toNat = some n ∧ upperChar c = [.ofNat n])
      ∨ upperChar c = [c] := by
  unfold upperChar
  dsimp only
  rw [if_neg (by omega)]
  split
  next parts found =>
    obtain ⟨before, later, listed, -⟩ := List.lookup_eq_some_iff.mp found
    exact .inl ⟨parts, by simp [listed], rfl⟩
  next =>
    cases moved : caseRuns.findSome? (·.map? c.toNat) with
    | none => exact .inr (.inr rfl)
    | some n =>
        obtain ⟨run, among, reached⟩ := List.exists_of_findSome?_eq_some moved
        exact .inr (.inl ⟨run, among, n, reached, rfl⟩)

/-- A run sends one character at most to a code. -/
theorem CaseRun.eq_of_map? {run : CaseRun} {n code : Nat} (reached : run.map? n = some code)
    (positive : 0 < code)
    : n = ((code : Int) - run.shift).toNat := by
  unfold map? at reached
  split at reached
  next =>
    have same : ((n : Int) + run.shift).toNat = code := Option.some.inj reached
    omega
  next => simp at reached

/-- A number that is no code of a character stands for the character with the code zero. -/
theorem toNat_ofNat (n : Nat) : (Char.ofNat n).toNat = n ∨ (Char.ofNat n).toNat = 0 := by
  by_cases valid : n.isValidChar
  · left
    rw [Char.ofNat, dif_pos valid]
    rfl
  · right
    rw [Char.ofNat, dif_neg valid]
    rfl

/-- No run leads to any of some codes. -/
def Unreached (codes : List Nat) : Prop :=
  ∀ code ∈ codes,
    0 < code ∧ ∀ run ∈ caseRuns, run.map? ((code : Int) - run.shift).toNat = none

theorem Unreached.not_mem {codes : List Nat} (unreached : Unreached codes) {run : CaseRun}
    (among : run ∈ caseRuns) {n code : Nat} (reached : run.map? n = some code)
    : (Char.ofNat code).toNat ∉ codes := by
  intro member
  rcases toNat_ofNat code with same | invalid
  · obtain ⟨positive, missed⟩ := unreached code (same ▸ member)
    have none := missed run among
    rw [← CaseRun.eq_of_map? reached positive, reached] at none
    simp at none
  · exact absurd (unreached 0 (invalid ▸ member)).1 (lt_irrefl 0)

/-- No character vanishes in upper case: each expansion has a part. -/
theorem upperChar_ne_nil (c : Char) : upperChar c ≠ [] := by
  have parts : ∀ entry ∈ caseExpansions, entry.2 ≠ [] := by decide +kernel
  by_cases ascii : c.toNat < 0x80
  · simp [upperChar_of_ascii ascii]
  · rcases upperChar_cases (not_lt.mp ascii) with ⟨_, listed, upper⟩ | ⟨_, _, _, _, upper⟩ | upper
    · simpa [upper] using parts _ listed
    · simp [upper]
    · simp [upper]

/-- Upper case makes no white space of an ASCII character. -/
theorem isBlank_toUpper {c : Char} (solid : isBlank c = false) : isBlank c.toUpper = false := by
  simp only [isBlank, Bool.or_eq_false_iff, Bool.and_eq_false_iff, decide_eq_false_iff_not,
    beq_eq_false_iff_ne, toNat_toUpper] at solid ⊢
  split <;> omega

/-- Upper case makes no white space. -/
theorem isBlank_upperChar {c d : Char} (solid : isBlank c = false) (part : d ∈ upperChar c)
    : isBlank d = false := by
  have unreached : Unreached blankCodes := by
    unfold Unreached
    decide +kernel
  have parts
      : ∀ entry ∈ caseExpansions, ∀ code ∈ entry.2, (Char.ofNat code).toNat ∉ blankCodes := by
    decide +kernel
  have absent (other : d.toNat ∉ blankCodes) : isBlank d = false :=
    Bool.eq_false_iff.mpr fun blank => other (toNat_mem_blankCodes blank)
  by_cases ascii : c.toNat < 0x80
  · rw [upperChar_of_ascii ascii, List.mem_singleton] at part
    exact part ▸ isBlank_toUpper solid
  · rcases upperChar_cases (not_lt.mp ascii) with
      ⟨codes, listed, upper⟩ | ⟨run, among, code, reached, upper⟩ | upper
    · rw [upper] at part
      obtain ⟨code, member, rfl⟩ := List.mem_map.mp part
      exact absent (parts _ listed code member)
    · rw [upper, List.mem_singleton] at part
      exact absent (part ▸ unreached.not_mem among reached)
    · rw [upper, List.mem_singleton] at part
      exact part ▸ solid

theorem toUpper_ne_empty {text : String} (nonempty : text ≠ "") : toUpper text ≠ "" := by
  intro empty
  have none : text.toList.flatMap upperChar = [] := by
    simpa [toUpper] using empty
  rw [List.flatMap_eq_nil_iff] at none
  cases shape : text.toList with
  | nil => exact nonempty (by simpa using shape)
  | cons c rest => exact upperChar_ne_nil c (none c (by simp [shape]))

-----------------------------------------------------------------------------------------
-- Trimming
-----------------------------------------------------------------------------------------

/-- Trimming does nothing to a text without white space. -/
theorem trim_of_solid {text : String} (solid : ∀ c ∈ text.toList, isBlank c = false)
    : trim text = text := by
  have started (chars : List Char) (solid : ∀ c ∈ chars, isBlank c = false)
      : chars.dropWhile isBlank = chars := by
    cases chars with
    | nil => rfl
    | cons c rest => simp [solid c List.mem_cons_self]
  have ended := started text.toList.reverse fun c member => solid c (List.mem_reverse.mp member)
  rw [trim, trimStart, started text.toList solid, trimEnd, ended, List.reverse_reverse,
    String.ofList_toList]

section
variable {f : Char → List Char} (blank : ∀ c, isBlank c = true → f c = [c])
  (solid : ∀ c, isBlank c = false → f c ≠ [] ∧ ∀ d ∈ f c, isBlank d = false)
include blank solid

/-- What keeps white space as it is and neither makes nor leaves anything blank can be done before
the front is trimmed or afterwards, by induction on the text.
-/
theorem dropWhile_flatMap (text : List Char)
    : (text.flatMap f).dropWhile isBlank = (text.dropWhile isBlank).flatMap f := by
  induction text with
  | nil => rfl
  | cons c rest ih =>
      cases white : isBlank c with
      | true => simp [blank c white, white, ih]
      | false =>
          obtain ⟨nonempty, parts⟩ := solid c white
          obtain ⟨d, more, shape⟩ := List.exists_cons_of_ne_nil nonempty
          have first : isBlank d = false := parts d (by simp [shape])
          simp [shape, white, first]

end

/-- It makes no difference whether a text is trimmed before it is put in upper case or afterwards.
-/
theorem trim_toUpper (text : String) : trim (toUpper text) = toUpper (trim text) := by
  have solid (c : Char) (inked : isBlank c = false)
      : upperChar c ≠ [] ∧ ∀ d ∈ upperChar c, isBlank d = false :=
    ⟨upperChar_ne_nil c, fun d => isBlank_upperChar inked⟩
  have started (text : List Char)
      : trimStart (text.flatMap upperChar) = (trimStart text).flatMap upperChar :=
    dropWhile_flatMap (fun c => upperChar_of_blank) solid text
  have ended (text : List Char)
      : trimEnd (text.flatMap upperChar) = (trimEnd text).flatMap upperChar := by
    have backwards := dropWhile_flatMap (f := List.reverse ∘ upperChar)
      (fun c white => by simp [upperChar_of_blank white])
      (fun c inked => by simpa using solid c inked) text.reverse
    rw [trimEnd, List.reverse_flatMap, backwards, trimEnd, List.flatMap_reverse]
  rw [trim, trim, toUpper, toUpper, String.toList_ofList, String.toList_ofList, started, ended]

end NetInventory.Text
