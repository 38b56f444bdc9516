import NetInventory.Mac
import NetInventory.Proofs.Text.Uppercase

/-! Normalization gives hardware addresses in one form: what it gives is empty or an address, and an
address stays one in lower case. A text in upper case names the same address; it may also name one
where the text itself does not, because a ligature of two letters becomes two digits.
-/

namespace NetInventory.Mac

/-- A hexadecimal digit lies in one of three ranges of characters. -/
theorem isHexDigit_iff {c : Char}
    : isHexDigit c = true
      ↔ (48 ≤ c.toNat ∧ c.toNat ≤ 57) ∨ (97 ≤ c.toNat ∧ c.toNat ≤ 102)
        ∨ (65 ≤ c.toNat ∧ c.toNat ≤ 70) := by
  have atLeast (d : Char) : (d ≤ c) = (d.toNat ≤ c.toNat) := rfl
  have atMost (d : Char) : (c ≤ d) = (c.toNat ≤ d.toNat) := rfl
  simp only [isHexDigit, Text.hexValue?, atLeast, atMost, Bool.and_eq_true, decide_eq_true_eq]
  split
  next digit => exact ⟨fun _ => .inl digit, fun _ => rfl⟩
  next =>
    split
    next small => exact ⟨fun _ => .inr (.inl small), fun _ => rfl⟩
    next =>
      split
      next capital => exact ⟨fun _ => .inr (.inr capital), fun _ => rfl⟩
      next noDigit noSmall noCapital =>
        exact ⟨fun none => by simp at none,
          fun range => (range.elim noDigit (Or.rec noSmall noCapital)).elim⟩

/-- Lower case moves the capital letters and nothing else. -/
theorem toNat_toLower (c : Char)
    : c.toLower.toNat = if 65 ≤ c.toNat ∧ c.toNat ≤ 90 then c.toNat + 32 else c.toNat := by
  have capital : ('A'.val ≤ c.val ∧ c.val ≤ 'Z'.val) ↔ (65 ≤ c.toNat ∧ c.toNat ≤ 90) := .rfl
  delta Char.toLower
  simp only [ge_iff_le]
  split
  next range =>
    rw [if_pos (capital.mp range)]
    have shift : (c.val + ('a'.val - 'A'.val)).toNat = (c.val.toNat + 32) % 2 ^ 32 :=
      UInt32.toNat_add ..
    have bound : c.val.toNat ≤ 90 := (capital.mp range).2
    exact shift.trans (Nat.mod_eq_of_lt (by omega))
  next other => rw [if_neg (mt capital.mpr other)]

theorem toLower_toLower (c : Char) : c.toLower.toLower = c.toLower := by
  rw [← Char.toNat_inj, toNat_toLower, toNat_toLower]
  split_ifs <;> omega

/-- Lower case forgets a change to upper case. -/
theorem toLower_toUpper (c : Char) : c.toUpper.toLower = c.toLower := by
  rw [← Char.toNat_inj, toNat_toLower, toNat_toLower, Text.toNat_toUpper]
  split_ifs <;> omega

theorem isHexDigit_toLower (c : Char) : isHexDigit c.toLower = isHexDigit c := by
  rw [Bool.eq_iff_iff, isHexDigit_iff, isHexDigit_iff, toNat_toLower]
  split <;> omega

theorem isHexDigit_toUpper (c : Char) : isHexDigit c.toUpper = isHexDigit c := by
  rw [Bool.eq_iff_iff, isHexDigit_iff, isHexDigit_iff, Text.toNat_toUpper]
  split <;> omega

theorem toLower_eq_colon_iff {c : Char} : c.toLower = ':' ↔ c = ':' := by
  rw [← Char.toNat_inj, ← Char.toNat_inj, toNat_toLower, show ':'.toNat = 58 from rfl]
  split <;> omega

theorem toUpper_eq_colon_iff {c : Char} : c.toUpper = ':' ↔ c = ':' := by
  rw [← Char.toNat_inj, ← Char.toNat_inj, Text.toNat_toUpper, show ':'.toNat = 58 from rfl]
  split <;> omega

-----------------------------------------------------------------------------------------
-- Octets
-----------------------------------------------------------------------------------------

/-- A map that neither makes nor takes away colons and digits does not matter to octets, by
induction on their number.
-/
theorem isOctets_map {f : Char → Char} (colon : ∀ c, f c = ':' ↔ c = ':')
    (digit : ∀ c, isHexDigit (f c) = isHexDigit c) (n : Nat) (text : List Char)
    : isOctets n (text.map f) = isOctets n text := by
  induction n generalizing text with
  | zero => simp [isOctets]
  | succ n ih =>
      match text with
      | [] => rfl
      | [_] | [_, _] => simp [isOctets]
      | first :: high :: low :: rest =>
          by_cases mark : first = ':'
          · simp [mark, (colon ':').mpr rfl, isOctets, digit, ih]
          · simp [isOctets, mark, mt (colon first).mp mark]

/-- Octets consist of colons and digits, by induction on their number. -/
theorem mem_of_isOctets {n : Nat} {text : List Char} (octets : isOctets n text = true) {c : Char}
    (member : c ∈ text)
    : c = ':' ∨ isHexDigit c = true := by
  fun_induction isOctets n text with
  | case1 text => simp [List.isEmpty_iff.mp octets] at member
  | case2 n high low rest ih =>
      simp only [Bool.and_eq_true] at octets
      simp only [List.mem_cons] at member
      rcases member with colon | rfl | rfl | later
      · exact .inl colon
      · exact .inr octets.1.1
      · exact .inr octets.1.2
      · exact ih octets.2 later
  | case3 => simp at octets

-----------------------------------------------------------------------------------------
-- Addresses
-----------------------------------------------------------------------------------------

/-- A map that neither makes nor takes away colons and digits does not matter to addresses. -/
theorem isAddress_map {f : Char → Char} (colon : ∀ c, f c = ':' ↔ c = ':')
    (digit : ∀ c, isHexDigit (f c) = isHexDigit c) (chars : List Char)
    : isAddress (.ofList (chars.map f)) = isAddress (.ofList chars) := by
  have octets := isOctets_map colon digit 6 (':' :: chars)
  rw [List.map_cons, (colon ':').mpr rfl] at octets
  rw [isAddress, isAddress, String.toList_ofList, String.toList_ofList, octets]

theorem isAddress_lowerCase (text : String) : isAddress (lowerCase text) = isAddress text := by
  rw [lowerCase, isAddress_map (fun _ => toLower_eq_colon_iff) isHexDigit_toLower,
    String.ofList_toList]

/-- What normalization says of a text is decided by what trimming leaves of it. -/
theorem normalize_eq (text : String)
    : normalize text
      = if Text.trim text = "" then .ok ""
        else if isAddress (Text.trim text) then .ok (lowerCase (Text.trim text))
        else .error (Text.trim text) := by
  simp only [normalize, String.isEmpty_iff]

/-- A normalized text is empty or an address. -/
theorem normalize_ok {text mac : String} (normal : normalize text = .ok mac)
    : mac = "" ∨ isAddress mac = true := by
  rw [normalize_eq] at normal
  split_ifs at normal with empty address
  · exact .inl (Except.ok.inj normal).symm
  · obtain rfl := Except.ok.inj normal
    exact .inr ((isAddress_lowerCase _).trans address)

/-- The characters that addresses consist of are no white space, and are in ASCII. -/
theorem ascii_of_mark {c : Char} (mark : c = ':' ∨ isHexDigit c = true)
    : Text.isBlank c = false ∧ c.toNat < 0x80 := by
  rcases mark with rfl | digit
  · decide
  · have range := isHexDigit_iff.mp digit
    refine ⟨?_, by omega⟩
    simp only [Text.isBlank, Bool.or_eq_false_iff, Bool.and_eq_false_iff, decide_eq_false_iff_not,
      beq_eq_false_iff_ne]
    omega

-----------------------------------------------------------------------------------------
-- Normal forms
-----------------------------------------------------------------------------------------

/-- Only text that trimming leaves something of and that is no address is complained of. -/
theorem normalize_eq_error_iff {text mac : String}
    : normalize text = .error mac
      ↔ mac = Text.trim text ∧ mac ≠ "" ∧ isAddress mac = false := by
  rw [normalize_eq]
  split_ifs with empty address
  · rw [empty]
    exact ⟨nofun, fun ⟨same, differs, _⟩ => absurd same differs⟩
  · refine ⟨nofun, ?_⟩
    rintro ⟨rfl, -, misread⟩
    simp [address] at misread
  · rw [Except.error.injEq, eq_comm]
    refine ⟨?_, And.left⟩
    rintro rfl
    exact ⟨rfl, empty, Bool.of_not_eq_true address⟩

theorem normalize_eq_empty_iff {text : String} : normalize text = .ok "" ↔ Text.trim text = "" := by
  rw [normalize_eq]
  split_ifs with empty address
  · simp [empty]
  · have stays := (isAddress_lowerCase _).trans address
    have nonempty : lowerCase (Text.trim text) ≠ "" := by
      intro none
      rw [none] at stays
      exact absurd stays (by decide)
    simp [empty, nonempty]
  · simp [empty]

/-- The address that stands for an unknown one has no letters, so no other text becomes it. -/
theorem lowerCase_eq_zero_iff {text : String} : lowerCase text = zero ↔ text = zero := by
  constructor
  · intro same
    have chars : text.toList.map Char.toLower = zero.toList := by
      simpa [lowerCase] using congrArg String.toList same
    have noLetters : ∀ c ∈ zero.toList, c.toNat < 65 := by simp [zero]
    have fixed (c : Char) (member : c ∈ text.toList) : c.toLower = c := by
      have small := noLetters c.toLower (chars ▸ List.mem_map_of_mem member)
      rw [toNat_toLower] at small
      rw [← Char.toNat_inj, toNat_toLower]
      split_ifs at small ⊢ <;> omega
    rw [← same, lowerCase, List.map_congr_left fixed, List.map_id', String.ofList_toList]
  · rintro rfl
    rfl

theorem normalize_eq_zero_iff {text : String}
    : normalize text = .ok zero ↔ Text.trim text = zero := by
  rw [normalize_eq]
  split_ifs with empty address
  · simp [empty, zero]
  · rw [Except.ok.injEq, lowerCase_eq_zero_iff]
  · have other : Text.trim text ≠ zero := fun same => address (same ▸ rfl)
    simp [other]

theorem mem_address {text : String} (address : isAddress text = true) {c : Char}
    (member : c ∈ text.toList)
    : Text.isBlank c = false ∧ c.toNat < 0x80 :=
  ascii_of_mark (mem_of_isOctets address (List.mem_cons_of_mem _ member))

theorem trim_of_isAddress {text : String} (address : isAddress text = true)
    : Text.trim text = text :=
  Text.trim_of_solid fun _ member => (mem_address address member).1

theorem lowerCase_lowerCase (text : String) : lowerCase (lowerCase text) = lowerCase text := by
  simp only [lowerCase, String.toList_ofList, List.map_map]
  congr 2
  exact funext toLower_toLower

/-- The normal form of a text is its own normal form. -/
theorem normalize_self {text mac : String} (normal : normalize text = .ok mac)
    : normalize mac = .ok mac := by
  rw [normalize_eq] at normal
  split_ifs at normal with empty address
  · exact Except.ok.inj normal ▸ rfl
  · obtain rfl := Except.ok.inj normal
    have stays := (isAddress_lowerCase _).trans address
    rw [normalize_eq, trim_of_isAddress stays, if_pos stays, lowerCase_lowerCase]
    split
    next none => rw [none]
    next => rfl

-----------------------------------------------------------------------------------------
-- Upper case
-----------------------------------------------------------------------------------------

/-- The codes of the characters that addresses consist of. -/
private def markCodes : List Nat :=
  .range' 48 11 ++ .range' 65 6 ++ .range' 97 6

private theorem toNat_mem_markCodes {c : Char} (mark : c = ':' ∨ isHexDigit c = true)
    : c.toNat ∈ markCodes := by
  rw [isHexDigit_iff] at mark
  simp only [markCodes, List.mem_append, List.mem_range'_1]
  rcases mark with rfl | digit
  · decide
  · omega

/-- The letters that a ligature of two letters f stands for, and any other character by itself. -/
def spellChar (c : Char) : List Char :=
  if c = '\uFB00' then ['F', 'F'] else [c]

/-- The text with two letters f in the place of each ligature of them. -/
def spellOut (text : String) : String :=
  .ofList (text.toList.flatMap spellChar)

/-- Whether there is an address in the text but for ligatures, each in the place of two digits. -/
def Ligated (text : String) : Prop :=
  '\uFB00' ∈ (Text.trim text).toList ∧ isAddress (spellOut (Text.trim text)) = true

theorem spellOut_of_plain {text : String} (plain : '\uFB00' ∉ text.toList)
    : spellOut text = text := by
  have kept : ∀ c ∈ text.toList, spellChar c = [c] :=
    fun c member => if_neg (ne_of_mem_of_not_mem member plain)
  rw [spellOut, List.flatMap_congr kept, List.flatMap_singleton', String.ofList_toList]

/-- The letters that are spelled out are digits, and not all digits are zero then. -/
theorem lowerCase_spellOut_ne_zero {text : String} (ligature : '\uFB00' ∈ text.toList)
    : lowerCase (spellOut text) ≠ zero := by
  rw [ne_eq, lowerCase_eq_zero_iff]
  intro same
  have letter : 'F' ∈ (spellOut text).toList := by
    rw [spellOut, String.toList_ofList]
    exact List.mem_flatMap.mpr ⟨_, ligature, by decide⟩
  rw [same] at letter
  exact absurd letter (by decide)

/-- No character but the ligature and those that addresses consist of becomes such characters only.
-/
theorem mark_of_upperChar {c : Char} (other : c ≠ '\uFB00')
    (marks : ∀ d ∈ Text.upperChar c, d = ':' ∨ isHexDigit d = true)
    : c = ':' ∨ isHexDigit c = true := by
  have unreached : Text.Unreached markCodes := by
    unfold Text.Unreached
    decide +kernel
  have ligature
      : ∀ entry ∈ Text.caseExpansions,
          (∀ code ∈ entry.2, (Char.ofNat code).toNat ∈ markCodes) → entry.1 = 0xFB00 := by
    decide +kernel
  by_cases ascii : c.toNat < 0x80
  · have mark := marks c.toUpper (by simp [Text.upperChar_of_ascii ascii])
    rwa [toUpper_eq_colon_iff, isHexDigit_toUpper] at mark
  · rcases Text.upperChar_cases (not_lt.mp ascii) with
      ⟨codes, listed, upper⟩ | ⟨run, among, code, reached, upper⟩ | upper
    · have same : c.toNat = 0xFB00 := by
        refine ligature _ listed fun code member => toNat_mem_markCodes (marks _ ?_)
        rw [upper]
        exact List.mem_map_of_mem member
      exact absurd (Char.toNat_inj.mp same) other
    · have mark := toNat_mem_markCodes (marks (.ofNat code) (by simp [upper]))
      exact absurd mark (unreached.not_mem among reached)
    · exact marks c (by simp [upper])

section
variable {text : String}

/-- In ASCII but for ligatures, upper case is that of the single letters. -/
theorem toUpper_eq (plain : ∀ c ∈ text.toList, c = '\uFB00' ∨ c.toNat < 0x80)
    : Text.toUpper text = .ofList ((spellOut text).toList.map Char.toUpper) := by
  have ligature : Text.upperChar '\uFB00' = (spellChar '\uFB00').map Char.toUpper := by
    decide +kernel
  have each (c : Char) (member : c ∈ text.toList)
      : Text.upperChar c = (spellChar c).map Char.toUpper := by
    by_cases same : c = '\uFB00'
    · rw [same, ligature]
    · have ascii := (plain c member).resolve_left same
      rw [Text.upperChar_of_ascii ascii, spellChar, if_neg same, List.map_singleton]
  rw [Text.toUpper, spellOut, String.toList_ofList, List.map_flatMap, List.flatMap_congr each]

theorem plain_of_toUpper (address : isAddress (Text.toUpper text) = true)
    : ∀ c ∈ text.toList, c = '\uFB00' ∨ c.toNat < 0x80 := by
  intro c member
  by_cases same : c = '\uFB00'
  · exact .inl same
  · have mark := mark_of_upperChar same fun d part => by
      refine mem_of_isOctets address (List.mem_cons_of_mem _ ?_)
      rw [Text.toUpper, String.toList_ofList]
      exact List.mem_flatMap.mpr ⟨c, member, part⟩
    exact .inr (ascii_of_mark mark).2

theorem plain_of_spellOut (address : isAddress (spellOut text) = true)
    : ∀ c ∈ text.toList, c = '\uFB00' ∨ c.toNat < 0x80 := by
  intro c member
  by_cases same : c = '\uFB00'
  · exact .inl same
  · have spelled : c ∈ (spellOut text).toList := by
      rw [spellOut, String.toList_ofList]
      exact List.mem_flatMap.mpr ⟨c, member, by simp [spellChar, same]⟩
    exact .inr (mem_address address spelled).2

/-- A text in upper case is an address exactly if it is one with its ligatures spelled out. -/
theorem isAddress_toUpper (text : String)
    : isAddress (Text.toUpper text) = isAddress (spellOut text) := by
  have same (plain : ∀ c ∈ text.toList, c = '\uFB00' ∨ c.toNat < 0x80)
      : isAddress (Text.toUpper text) = isAddress (spellOut text) := by
    rw [toUpper_eq plain, isAddress_map (fun _ => toUpper_eq_colon_iff) isHexDigit_toUpper,
      String.ofList_toList]
  rw [Bool.eq_iff_iff]
  constructor
  · intro address
    rwa [← same (plain_of_toUpper address)]
  · intro address
    rwa [same (plain_of_spellOut address)]

theorem lowerCase_toUpper (address : isAddress (spellOut text) = true)
    : lowerCase (Text.toUpper text) = lowerCase (spellOut text) := by
  rw [toUpper_eq (plain_of_spellOut address), lowerCase, String.toList_ofList, List.map_map,
    lowerCase]
  exact congrArg String.ofList (List.map_congr_left fun c _ => toLower_toUpper c)

/-- What normalization says of a text in upper case is decided by what trimming leaves of the text,
with its ligatures spelled out.
-/
theorem normalize_toUpper_eq (text : String)
    : normalize (Text.toUpper text)
      = if Text.trim text = "" then .ok ""
        else if isAddress (spellOut (Text.trim text)) then
          .ok (lowerCase (spellOut (Text.trim text)))
        else .error (Text.toUpper (Text.trim text)) := by
  rw [normalize_eq, Text.trim_toUpper, isAddress_toUpper]
  by_cases empty : Text.trim text = ""
  · rw [empty]
    rfl
  · rw [if_neg empty, if_neg (Text.toUpper_ne_empty empty)]
    split
    next address => rw [lowerCase_toUpper address]
    next => rfl

/-- A ligature is in no address, so a text with one has no normal form. -/
theorem normalize_of_ligature (ligature : '\uFB00' ∈ (Text.trim text).toList)
    : normalize text = .error (Text.trim text) := by
  refine normalize_eq_error_iff.mpr ⟨rfl, fun empty => by simp [empty] at ligature, ?_⟩
  by_contra address
  have ascii := (mem_address (Bool.of_not_eq_false address) ligature).2
  exact absurd ascii (by decide)

/-- A text in upper case has the normal form of the text. It has one also if only ligatures keep the
text from having one, and else it has none.
-/
theorem normalize_toUpper_eq_ok_iff {mac : String}
    : normalize (Text.toUpper text) = .ok mac
      ↔ normalize text = .ok mac
        ∨ Ligated text ∧ lowerCase (spellOut (Text.trim text)) = mac := by
  rw [normalize_toUpper_eq]
  by_cases ligature : '\uFB00' ∈ (Text.trim text).toList
  · have nonempty : Text.trim text ≠ "" := fun empty => by simp [empty] at ligature
    rw [if_neg nonempty, normalize_of_ligature ligature]
    by_cases address : isAddress (spellOut (Text.trim text)) = true <;>
      simp [Ligated, ligature, address]
  · have plain : ¬ Ligated text := fun ligated => ligature ligated.1
    rw [spellOut_of_plain ligature, normalize_eq]
    split_ifs <;> simp [plain]

/-- A text in upper case has the same normal form, whatever stands around the address. -/
theorem normalize_toUpper {mac : String} (normal : normalize text = .ok mac)
    : normalize (Text.toUpper text) = .ok mac :=
  normalize_toUpper_eq_ok_iff.mpr (.inl normal)

end

end NetInventory.Mac
