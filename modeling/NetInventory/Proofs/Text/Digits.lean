import Mathlib.Data.List.Induction
import Mathlib.Data.List.TakeWhile
import NetInventory.Text.Decimal

/-! Runs of characters, and decimal numerals. A text has one way only to be parted into a run of
characters of one class and a rest that does not go on with them. A run of digits without a zero in
front of another digit is the numeral of its value.
-/

namespace NetInventory.Text

-----------------------------------------------------------------------------------------
-- Runs
-----------------------------------------------------------------------------------------

section
variable {among : Char → Bool} {run rest : List Char}

/-- The text does not go on with a character of the class. -/
def EndsRun (among : Char → Bool) (rest : List Char) : Prop :=
  ∀ c tail, rest = c :: tail → among c = false

theorem endsRun_nil : EndsRun among [] :=
  nofun

theorem endsRun_cons {c : Char} (other : among c = false) : EndsRun among (c :: rest) := by
  rintro _ _ shape
  obtain ⟨rfl, -⟩ := List.cons.inj shape
  exact other

/-- A text that does not go on with a wider class does not go on with a narrower one. -/
theorem EndsRun.mono {narrow wide : Char → Bool} (ends : EndsRun wide rest)
    (part : ∀ c, narrow c = true → wide c = true)
    : EndsRun narrow rest := by
  intro c tail shape
  have outside := ends c tail shape
  exact Bool.eq_false_iff.mpr fun inside => by simp [part c inside] at outside

theorem takeWhile_run (within : ∀ c ∈ run, among c = true) (ends : EndsRun among rest)
    : (run ++ rest).takeWhile among = run := by
  rw [List.takeWhile_append_of_pos within]
  cases rest with
  | nil => simp
  | cons c tail => simp [ends c tail rfl]

theorem dropWhile_run (within : ∀ c ∈ run, among c = true) (ends : EndsRun among rest)
    : (run ++ rest).dropWhile among = rest := by
  rw [List.dropWhile_append_of_pos within]
  cases rest with
  | nil => rfl
  | cons c tail => simp [ends c tail rfl]

theorem endsRun_dropWhile (among : Char → Bool) (text : List Char)
    : EndsRun among (text.dropWhile among) := by
  intro c tail shape
  have first := List.head?_dropWhile_not among text
  rw [shape] at first
  exact first

theorem drop_length_takeWhile (among : Char → Bool) (text : List Char)
    : text.drop (text.takeWhile among).length = text.dropWhile among :=
  calc text.drop (text.takeWhile among).length
    _ = (text.takeWhile among ++ text.dropWhile among).drop (text.takeWhile among).length := by
      rw [List.takeWhile_append_dropWhile]
    _ = text.dropWhile among := List.drop_left

end

-----------------------------------------------------------------------------------------
-- Numerals
-----------------------------------------------------------------------------------------

/-- The text is a decimal number: digits throughout, and one at least. -/
def IsNumeral (digits : List Char) : Prop :=
  digits ≠ [] ∧ ∀ c ∈ digits, c.isDigit = true

theorem readDigits?_eq_some_iff {digits : List Char} {n : Nat}
    : readDigits? digits = some n ↔ IsNumeral digits ∧ digitsValue digits = n := by
  unfold readDigits? IsNumeral
  by_cases empty : digits = []
  · simp [empty]
  · simp [empty]

/-- A number that may not be negative is read from a numeral that may stand behind a plus sign. -/
theorem readNatural?_ofList_eq_some_iff {text : List Char} {n : Nat}
    : readNatural? (.ofList text) = some n
      ↔ ∃ digits,
        (text = digits ∨ text = '+' :: digits) ∧ IsNumeral digits ∧ digitsValue digits = n := by
  unfold readNatural?
  rw [String.toList_ofList]
  split
  next digits =>
    rw [readDigits?_eq_some_iff]
    constructor
    · intro reads
      exact ⟨digits, .inr rfl, reads⟩
    · rintro ⟨other, rfl | same, reads⟩
      · exact absurd (reads.1.2 '+' List.mem_cons_self) (by decide)
      · obtain ⟨-, rfl⟩ := List.cons.inj same
        exact reads
  next _ unsigned =>
    rw [readDigits?_eq_some_iff]
    constructor
    · intro reads
      exact ⟨text, .inl rfl, reads⟩
    · rintro ⟨other, rfl | rfl, reads⟩
      · exact reads
      · exact absurd rfl (unsigned other)

theorem isNumeral_toDigits (n : Nat) : IsNumeral (Nat.toDigits 10 n) :=
  ⟨Nat.toDigits_ne_nil, fun _ => Nat.isDigit_of_mem_toDigits (by omega) (by omega)⟩

theorem digitsValue_toDigits (n : Nat) : digitsValue (Nat.toDigits 10 n) = n := by
  have value := Nat.ofDigitChars_ten_toDigits (n := n)
  rw [Nat.ofDigitChars_eq_foldl] at value
  simpa only [digitsValue, Nat.mul_comm] using value

/-- The digits of a positive number do not begin with zero, by induction on the number. -/
theorem head?_toDigits {n : Nat} (positive : 0 < n)
    : (Nat.toDigits 10 n).head? ≠ some '0' := by
  induction n using Nat.strong_induction_on with
  | _ n ih =>
      by_cases small : n < 10
      · have digit : ∀ m < 10, 0 < m → [Nat.digitChar m].head? ≠ some '0' := by decide
        rw [Nat.toDigits_of_lt_base small]
        exact digit n small positive
      · have shorter := ih (n / 10) (by omega) (by omega)
        rw [List.head?_eq_some_head Nat.toDigits_ne_nil] at shorter
        rw [Nat.toDigits_of_base_le (by omega) (by omega), List.head?_append,
          List.head?_eq_some_head Nat.toDigits_ne_nil]
        exact shorter

theorem digitsValue_concat (digits : List Char) (c : Char)
    : digitsValue (digits ++ [c]) = 10 * digitsValue digits + digitsValue [c] := by
  simp [digitsValue, Nat.mul_comm]

/-- A digit is the numeral of its value. -/
theorem toDigits_digitsValue_singleton {c : Char} (digit : c.isDigit = true)
    : digitsValue [c] < 10 ∧ Nat.toDigits 10 (digitsValue [c]) = [c] := by
  have value : digitsValue [c] = c.toNat - '0'.toNat := by simp [digitsValue]
  have range : 48 ≤ c.toNat ∧ c.toNat ≤ 57 := by
    simpa [Char.isDigit, Char.le_def, UInt32.le_iff_toNat_le] using digit
  have zero : '0'.toNat = 48 := rfl
  have small : digitsValue [c] < 10 := by omega
  refine ⟨small, ?_⟩
  rw [Nat.toDigits_of_lt_base small, value]
  refine congrArg (fun d => [d]) (Char.toNat_inj.mp ?_)
  rw [Nat.toNat_digitChar_of_lt_ten (by omega)]
  omega

/-- A numeral without a zero in front of another digit is the numeral of its value, by induction on
its digits from the last one on.
-/
theorem toDigits_digitsValue {digits : List Char} (numeral : IsNumeral digits)
    (plain : digits.head? = some '0' → digits.length = 1)
    : Nat.toDigits 10 (digitsValue digits) = digits := by
  obtain ⟨nonempty, all⟩ := numeral
  induction digits using List.reverseRecOn with
  | nil => exact absurd rfl nonempty
  | append_singleton front last ih =>
      have digit : last.isDigit = true := all last (by simp)
      obtain ⟨small, single⟩ := toDigits_digitsValue_singleton digit
      by_cases alone : front = []
      · subst alone
        exact single
      · have leading : front.head? ≠ some '0' := by
          intro zero
          have short := plain (by rw [List.head?_append, zero]; rfl)
          rw [List.length_append, List.length_singleton] at short
          exact alone (List.length_eq_zero_iff.mp (by omega))
        have before := ih (absurd · leading) alone
          fun c member => all c (List.mem_append_left _ member)
        have positive : 0 < digitsValue front := by
          rw [Nat.pos_iff_ne_zero]
          intro zero
          rw [zero] at before
          exact leading (before ▸ rfl)
        rw [digitsValue_concat, ← Nat.toDigits_append_toDigits (by omega) positive small, before,
          single]

end NetInventory.Text
