import NetInventory.Address.Network
import NetInventory.Proofs.Address.Spelling

/-! Which texts name networks. An address in any of its spellings, a slash, and the number of bits
in decimal digits name one, as they should; so do the same with a plus sign in front of the digits,
and nothing else does.
-/

namespace NetInventory.Network

open NetInventory.Text (EndsRun IsNumeral digitsValue endsRun_cons)

/-- The text is an address, a slash, a sign if one is given, and decimal digits whose value is at
most the number of bits of the address.
-/
def Written (sign : List Char) (text : String) : Prop :=
  ∃ address front digits,
    text.toList = front ++ '/' :: (sign ++ digits)
    ∧ IpAddress.Spelled address front
    ∧ IsNumeral digits
    ∧ digitsValue digits ≤ address.bits

variable {text : String} {front back : List Char}

-----------------------------------------------------------------------------------------
-- The first slash
-----------------------------------------------------------------------------------------

/-- A text is parted at its first slash in one way only. -/
theorem parts_of_slash (back : List Char) (clear : '/' ∉ front)
    : (front ++ '/' :: back).takeWhile (· ≠ '/') = front
      ∧ (front ++ '/' :: back).dropWhile (· ≠ '/') = '/' :: back := by
  have within : ∀ c ∈ front, decide (c ≠ '/') = true := by
    intro c member
    exact decide_eq_true fun slash => clear (slash ▸ member)
  have ends : EndsRun (· ≠ '/') ('/' :: back) := endsRun_cons (by decide)
  exact ⟨Text.takeWhile_run within ends, Text.dropWhile_run within ends⟩

/-- Around its first slash, a text that names a network has an address and a number that may have a
plus sign in front.
-/
theorem isText_of_slash (shape : text.toList = front ++ '/' :: back) (clear : '/' ∉ front)
    : isText text = true
      ↔ ∃ address digits,
        IpAddress.Spelled address front
        ∧ (back = digits ∨ back = '+' :: digits)
        ∧ IsNumeral digits
        ∧ digitsValue digits ≤ address.bits := by
  obtain ⟨before, behind⟩ := parts_of_slash back clear
  unfold isText ofText?
  rw [shape, before, behind, Option.isSome_iff_exists]
  simp only [Option.bind_eq_bind, Option.bind_eq_some_iff, Option.pure_def,
    Option.ite_none_right_eq_some, Text.readNatural?_ofList_eq_some_iff,
    IpAddress.ofText?_eq_some_iff, String.toList_ofList]
  constructor
  · rintro ⟨_, length, ⟨digits, signed, numeral, rfl⟩, address, spelled, fits, -⟩
    exact ⟨address, digits, spelled, signed, numeral, fits⟩
  · rintro ⟨address, digits, spelled, signed, numeral, fits⟩
    exact ⟨_, _, ⟨digits, signed, numeral, rfl⟩, address, spelled, fits, rfl⟩

theorem exists_slash (named : isText text = true)
    : ∃ front back, text.toList = front ++ '/' :: back ∧ '/' ∉ front := by
  have whole := List.takeWhile_append_dropWhile (p := fun c => decide (c ≠ '/')) (l := text.toList)
  unfold isText ofText? at named
  split at named
  next => simp at named
  next c back behind =>
    have slash := Text.endsRun_dropWhile (fun c => decide (c ≠ '/')) text.toList c back behind
    obtain rfl : c = '/' := by simpa using slash
    rw [behind] at whole
    refine ⟨_, back, whole.symm, fun member => ?_⟩
    have other := List.mem_takeWhile_imp member
    simp at other

-----------------------------------------------------------------------------------------
-- Names of networks
-----------------------------------------------------------------------------------------

/-- Behind the first slash there is either a digit or a sign. -/
theorem not_written_of_signed (signed : Written ['+'] text) : ¬ Written [] text := by
  obtain ⟨address, front, digits, shape, spelled, -, -⟩ := signed
  rintro ⟨other, otherFront, otherDigits, otherShape, otherSpelled, ⟨-, numeral⟩, -⟩
  have behind := (parts_of_slash (['+'] ++ digits) spelled.slash_not_mem).2
  have otherBehind := (parts_of_slash ([] ++ otherDigits) otherSpelled.slash_not_mem).2
  rw [← shape] at behind
  rw [← otherShape, behind] at otherBehind
  have same : '+' :: digits = otherDigits := (List.cons.inj otherBehind).2
  have digit : '+'.isDigit = true := numeral '+' (same ▸ List.mem_cons_self)
  exact absurd digit (by decide)

/-- A text that is read as a network has one of two forms, the usual one and one with a plus sign in
front of the length, and no text has both.
-/
theorem isText_iff_written (text : String)
    : (isText text = true ↔ Written [] text ∨ Written ['+'] text)
      ∧ ¬ (Written [] text ∧ Written ['+'] text) := by
  refine ⟨⟨fun named => ?_, fun written => ?_⟩, fun both => not_written_of_signed both.2 both.1⟩
  · obtain ⟨front, back, shape, clear⟩ := exists_slash named
    obtain ⟨address, digits, spelled, rfl | rfl, numeral, fits⟩ :=
      (isText_of_slash shape clear).mp named
    · exact .inl ⟨address, front, back, shape, spelled, numeral, fits⟩
    · exact .inr ⟨address, front, digits, shape, spelled, numeral, fits⟩
  · rcases written with plain | signed
    · obtain ⟨address, front, digits, shape, spelled, numeral, fits⟩ := plain
      exact (isText_of_slash shape spelled.slash_not_mem).mpr
        ⟨address, digits, spelled, .inl rfl, numeral, fits⟩
    · obtain ⟨address, front, digits, shape, spelled, numeral, fits⟩ := signed
      exact (isText_of_slash shape spelled.slash_not_mem).mpr
        ⟨address, digits, spelled, .inr rfl, numeral, fits⟩

/-- In whichever form a text is read, there is a sign in front of the length, or none. -/
theorem isText_iff_signed
    : isText text = true ↔ ∃ sign, (sign = [] ∨ sign = ['+']) ∧ Written sign text := by
  constructor
  · intro named
    obtain ⟨front, back, shape, clear⟩ := exists_slash named
    obtain ⟨address, digits, spelled, signed, valid⟩ := (isText_of_slash shape clear).mp named
    rcases signed with rfl | rfl
    · exact ⟨[], .inl rfl, address, front, back, shape, spelled, valid⟩
    · exact ⟨['+'], .inr rfl, address, front, digits, shape, spelled, valid⟩
  · intro written
    obtain ⟨sign, signed, address, front, digits, shape, spelled, valid⟩ := written
    refine (isText_of_slash shape spelled.slash_not_mem).mpr ⟨address, digits, spelled, ?_, valid⟩
    rcases signed with rfl | rfl
    · exact .inl rfl
    · exact .inr rfl

/-- A sign in front of the length does not keep a text from being read as a network. -/
theorem isText_signed
    : isText "10.0.0.0/+24" = true ∧ ¬ Written [] "10.0.0.0/+24" := by
  have text : "10.0.0.0".toList = (⟨10, 0, 0, 0⟩ : Ipv4).text.toList := by decide +kernel
  have spelled : IpAddress.Spelled (.v4 ⟨10, 0, 0, 0⟩) "10.0.0.0".toList := text
  have signed : Written ['+'] "10.0.0.0/+24" :=
    ⟨_, _, ['2', '4'], by decide +kernel, spelled, by simp [IsNumeral], by decide⟩
  exact ⟨by decide +kernel, not_written_of_signed signed⟩

end NetInventory.Network
