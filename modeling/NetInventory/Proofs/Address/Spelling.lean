import NetInventory.Address.Ip
import NetInventory.Proofs.Text.Digits

/-! How addresses are spelled. An address of the fourth version has one spelling, its own text. One
of the sixth version has many: its groups may have zeros in front and letters of either case, one
run of zero groups may be left out, and the last two groups may stand as an address of the fourth
version. Reading accepts exactly these spellings.
-/

namespace NetInventory

open NetInventory.Text (EndsRun endsRun_nil endsRun_cons)

-----------------------------------------------------------------------------------------
-- The fourth version
-----------------------------------------------------------------------------------------

namespace Ipv4

variable {text rest : List Char}

/-- A number up to 255 is read from its numeral, which has no zero in front of another digit. -/
theorem octet?_eq_some_iff {n : UInt8}
    : octet? text = some (n, rest)
      ↔ text = Nat.toDigits 10 n.toNat ++ rest ∧ EndsRun Char.isDigit rest := by
  simp only [octet?]
  constructor
  · intro read
    split at read
    next => simp at read
    next fits =>
      simp only [Bool.or_eq_true, Bool.and_eq_true, decide_eq_true_eq, not_or, not_and,
        List.isEmpty_iff] at fits
      obtain ⟨⟨⟨nonempty, short⟩, plain⟩, bound⟩ := fits
      obtain ⟨rfl, rfl⟩ := Prod.mk.inj (Option.some.inj read)
      have numeral : Text.IsNumeral (text.takeWhile Char.isDigit) :=
        ⟨nonempty, fun c member => List.mem_takeWhile_imp member⟩
      have single (zero : (text.takeWhile Char.isDigit).head? = some '0')
          : (text.takeWhile Char.isDigit).length = 1 := by
        have some := List.length_pos_iff.mpr nonempty
        have one := plain zero
        omega
      have small : Text.digitsValue (text.takeWhile Char.isDigit) < UInt8.size :=
        Nat.lt_succ_of_le (not_lt.mp bound)
      rw [UInt8.toNat_ofNat_of_lt' small, Text.toDigits_digitsValue numeral single,
        Text.drop_length_takeWhile]
      exact ⟨List.takeWhile_append_dropWhile.symm, Text.endsRun_dropWhile _ _⟩
  · rintro ⟨rfl, ends⟩
    have numeral := Text.isNumeral_toDigits n.toNat
    have bound : n.toNat < 256 := n.toNat_lt
    have short : (Nat.toDigits 10 n.toNat).length ≤ 3 :=
      (Nat.length_toDigits_le_iff (by decide) (by decide)).mpr (bound.trans (by decide))
    have plain (zero : (Nat.toDigits 10 n.toNat).head? = some '0')
        : (Nat.toDigits 10 n.toNat).length = 1 := by
      by_cases positive : 0 < n.toNat
      · exact absurd zero (Text.head?_toDigits positive)
      · rw [Nat.eq_zero_of_not_pos positive]
        rfl
    rw [Text.takeWhile_run numeral.2 ends, Text.digitsValue_toDigits, if_neg]
    · simp
    · simp only [Bool.or_eq_true, Bool.and_eq_true, decide_eq_true_eq, not_or, not_and,
        List.isEmpty_iff]
      refine ⟨⟨⟨numeral.1, by omega⟩, fun zero => ?_⟩, by omega⟩
      have one := plain zero
      omega

theorem octet?_append (n : UInt8) (ends : EndsRun Char.isDigit rest)
    : octet? (Nat.toDigits 10 n.toNat ++ rest) = some (n, rest) :=
  octet?_eq_some_iff.mpr ⟨rfl, ends⟩

theorem point?_eq_some_iff : point? text = some rest ↔ text = '.' :: rest := by
  unfold point?
  split <;> simp_all

/-- The characters of an address: four numerals with points between. -/
def chars (address : Ipv4) : List Char :=
  Nat.toDigits 10 address.a.toNat ++ '.' :: (Nat.toDigits 10 address.b.toNat
    ++ '.' :: (Nat.toDigits 10 address.c.toNat ++ '.' :: Nat.toDigits 10 address.d.toNat))

theorem toList_text (address : Ipv4) : address.text.toList = address.chars := by
  simp [text, chars]

theorem mem_chars {address : Ipv4} {c : Char} (member : c ∈ address.chars)
    : c.isDigit = true ∨ c = '.' := by
  have digit (n : Nat) := (Text.isNumeral_toDigits n).2 c
  simp only [chars, List.mem_append, List.mem_cons] at member
  rcases member with a | rfl | b | rfl | c | rfl | d
  · exact .inl (digit _ a)
  · exact .inr rfl
  · exact .inl (digit _ b)
  · exact .inr rfl
  · exact .inl (digit _ c)
  · exact .inr rfl
  · exact .inl (digit _ d)

theorem read?_eq_some_iff {address : Ipv4}
    : read? text = some (address, rest)
      ↔ text = address.chars ++ rest ∧ EndsRun Char.isDigit rest := by
  unfold read? chars
  constructor
  · intro read
    simp only [Option.bind_eq_bind, Option.bind_eq_some_iff, point?_eq_some_iff, Prod.exists,
      octet?_eq_some_iff, Option.pure_def, Option.some.injEq, Prod.mk.injEq] at read
    obtain ⟨a, _, ⟨rfl, -⟩, _, rfl, b, _, ⟨rfl, -⟩, _, rfl, c, _, ⟨rfl, -⟩, _, rfl, d, last,
      ⟨rfl, ends⟩, rfl, rfl⟩ := read
    exact ⟨by simp, ends⟩
  · rintro ⟨rfl, ends⟩
    have point (tail : List Char) : EndsRun Char.isDigit ('.' :: tail) := endsRun_cons rfl
    simp only [List.append_assoc, List.cons_append, octet?_append _ (point _), octet?_append _ ends,
      point?, Option.bind_eq_bind, Option.bind_some, Option.pure_def]

end Ipv4

-----------------------------------------------------------------------------------------
-- The sixth version
-----------------------------------------------------------------------------------------

namespace Ipv6

/-- A hexadecimal digit in either case. -/
abbrev isDigit (c : Char) : Bool :=
  (Text.hexValue? c).isSome

/-- A group is named by one to four hexadecimal digits. -/
structure IsGroup (digits : List Char) (group : UInt16) : Prop where
  nonempty : digits ≠ []
  short : digits.length ≤ 4
  within : ∀ c ∈ digits, isDigit c = true
  value
    : group
      = .ofNat ((digits.filterMap Text.hexValue?).foldl (fun value d => value * 16 + d) 0)

/-- What stands in front of a group: a colon, unless it is the first one. -/
def lead (first : Bool) : List Char :=
  if first then [] else [':']

/-- How a run of groups is written. The last two of them may stand as an address of the fourth
version, and then the second component tells so.
-/
inductive Written : Bool → Bool → List UInt16 → List Char → Prop
  | none {first} : Written first false [] []
  | group {first embedded digits group groups chars}
      (named : IsGroup digits group)
      (more : Written false embedded groups chars)
      : Written first embedded (group :: groups) (lead first ++ (digits ++ chars))
  | embedded {first} (address : Ipv4)
      : Written first true address.groups (lead first ++ address.chars)

/-- How an address is written: eight groups, or fewer with two colons for the zeros between. In
front of these no group stands as an address of the fourth version.
-/
inductive Spelled : Ipv6 → List Char → Prop
  | whole {embedded groups chars}
      (run : Written true embedded groups chars)
      (all : groups.length = 8)
      : Spelled (ofGroups groups []) chars
  | shortened {embedded front back before after}
      (frontRun : Written true false front before)
      (backRun : Written true embedded back after)
      (room : front.length + back.length < 8)
      : Spelled (ofGroups front back) (before ++ ':' :: ':' :: after)

variable {text rest : List Char} {first embedded : Bool} {groups : List UInt16}

theorem group?_eq_some_iff {group : UInt16}
    : group? text = some (group, rest)
      ↔ ∃ digits, text = digits ++ rest ∧ IsGroup digits group ∧ EndsRun isDigit rest := by
  simp only [group?]
  constructor
  · intro read
    split at read
    next => simp at read
    next fits =>
      simp only [Bool.or_eq_true, decide_eq_true_eq, not_or, List.isEmpty_iff] at fits
      obtain ⟨rfl, rfl⟩ := Prod.mk.inj (Option.some.inj read)
      refine ⟨text.takeWhile isDigit, ?_, ?_, ?_⟩
      · rw [Text.drop_length_takeWhile, List.takeWhile_append_dropWhile]
      · exact ⟨fits.1, not_lt.mp fits.2, fun c member => List.mem_takeWhile_imp member, rfl⟩
      · rw [Text.drop_length_takeWhile]
        exact Text.endsRun_dropWhile _ _
  · rintro ⟨digits, rfl, ⟨nonempty, short, within, rfl⟩, ends⟩
    rw [Text.takeWhile_run within ends, if_neg]
    · simp
    · simp only [Bool.or_eq_true, decide_eq_true_eq, not_or, List.isEmpty_iff]
      exact ⟨nonempty, by omega⟩

theorem colon?_eq_some_iff {body : List Char}
    : colon? first text = some body ↔ text = lead first ++ body := by
  cases first with
  | true => simp [colon?, lead]
  | false =>
      unfold colon? lead
      rw [if_neg Bool.false_ne_true, if_neg Bool.false_ne_true]
      split <;> simp_all

/-- What `readGroups` takes is a run of groups. -/
theorem written_of_readGroups {room : Nat}
    (read : readGroups first room text = (groups, embedded, rest))
    : groups.length ≤ room
      ∧ ∃ chars, text = chars ++ rest ∧ Written first embedded groups chars := by
  fun_induction readGroups first room text generalizing groups embedded rest with
  | case1 first text =>
      obtain ⟨rfl, rfl, rfl⟩ := by simpa using read
      exact ⟨le_rfl, [], rfl, .none⟩
  | case2 first room text closed =>
      obtain ⟨rfl, rfl, rfl⟩ := by simpa using read
      exact ⟨Nat.zero_le _, [], rfl, .none⟩
  | case3 first room text body opened address after taken =>
      obtain ⟨rfl, rfl, rfl⟩ := by simpa using read
      obtain rfl := colon?_eq_some_iff.mp opened
      obtain ⟨enough, taken⟩ := Option.ite_none_right_eq_some.mp taken
      obtain ⟨rfl, -⟩ := Ipv4.read?_eq_some_iff.mp taken
      refine ⟨by simpa [Ipv4.groups] using enough, _, ?_, .embedded address⟩
      rw [List.append_assoc]
  | case4 first room text body opened missing foreign =>
      obtain ⟨rfl, rfl, rfl⟩ := by simpa using read
      exact ⟨Nat.zero_le _, [], rfl, .none⟩
  | case5 first room text body opened missing group after taken more ends last shape ih =>
      obtain ⟨rfl, rfl, rfl⟩ := by simpa [shape] using read
      obtain rfl := colon?_eq_some_iff.mp opened
      obtain ⟨digits, rfl, named, -⟩ := group?_eq_some_iff.mp taken
      obtain ⟨fits, chars, rfl, written⟩ := ih shape
      refine ⟨Nat.succ_le_succ fits, _, ?_, .group named written⟩
      simp only [List.append_assoc]

theorem isDigit_of_decimal {c : Char} (decimal : c.isDigit = true) : isDigit c = true := by
  have bounds : 48 ≤ c.val ∧ c.val ≤ 57 := by simpa [Char.isDigit] using decimal
  have range : '0' ≤ c ∧ c ≤ '9' := bounds
  simp [isDigit, Text.hexValue?, range]

theorem ne_colon_of_isDigit {c : Char} (digit : isDigit c = true) : c ≠ ':' := by
  rintro rfl
  exact absurd digit (by decide)

/-- A group in front of a colon or of the end is no address of the fourth version: that has a point
behind its first digits.
-/
theorem read?_v4_of_isGroup {digits more : List Char} {group : UInt16}
    (named : IsGroup digits group) (ends : EndsRun (· ≠ ':') more)
    : Ipv4.read? (digits ++ more) = none := by
  refine Option.eq_none_iff_forall_ne_some.mpr ?_
  rintro ⟨address, after⟩ read
  obtain ⟨same, -⟩ := Ipv4.read?_eq_some_iff.mp read
  have behindGroup : (digits ++ more).dropWhile isDigit = more :=
    Text.dropWhile_run named.within (ends.mono fun c digit => by simp [ne_colon_of_isDigit digit])
  have behindNumeral
      : ∃ tail, (digits ++ more).dropWhile isDigit = '.' :: tail := by
    rw [same, Ipv4.chars, List.append_assoc]
    refine ⟨_, Text.dropWhile_run (fun c member => ?_) (endsRun_cons rfl)⟩
    exact isDigit_of_decimal ((Text.isNumeral_toDigits _).2 c member)
  obtain ⟨tail, point⟩ := behindNumeral
  rw [behindGroup] at point
  have other := ends '.' tail point
  simp at other

/-- Nothing follows, or the two colons that stand for zeros. -/
def Closes (rest : List Char) : Prop :=
  rest = [] ∨ ∃ tail, rest = ':' :: ':' :: tail

theorem Closes.endsRun (closes : Closes rest) : EndsRun (· ≠ ':') rest := by
  rcases closes with rfl | ⟨tail, rfl⟩
  · exact endsRun_nil
  · exact endsRun_cons rfl

theorem Written.endsRun {chars : List Char} (written : Written false embedded groups chars)
    (ends : EndsRun (· ≠ ':') rest)
    : EndsRun (· ≠ ':') (chars ++ rest) := by
  cases written with
  | none => exact ends
  | group => exact endsRun_cons rfl
  | embedded => exact endsRun_cons rfl

/-- No groups are read where nothing or two colons follow. -/
theorem readGroups_of_closes (closes : Closes rest) (first : Bool) (room : Nat)
    : readGroups first room rest = ([], false, rest) := by
  cases room with
  | zero => rfl
  | succ room =>
      have noAddress : Ipv4.read? [] = none := rfl
      have noGroup : group? [] = none := rfl
      have noAddressColon (tail : List Char) : Ipv4.read? (':' :: tail) = none := rfl
      have noGroupColon (tail : List Char) : group? (':' :: tail) = none := rfl
      rcases closes with rfl | ⟨tail, rfl⟩ <;> cases first <;>
        simp only [readGroups, colon?, noAddress, noGroup, noAddressColon, noGroupColon, ite_self,
          if_true, Bool.false_eq_true, if_false]

/-- A run of groups is read to its end where nothing or two colons follow, by induction on it. -/
theorem readGroups_of_written {chars : List Char} (written : Written first embedded groups chars)
    (closes : Closes rest) (room : Nat) (fits : groups.length ≤ room)
    : readGroups first room (chars ++ rest) = (groups, embedded, rest) := by
  induction written generalizing room with
  | @none first => exact readGroups_of_closes closes first room
  | @group first embedded digits group groups chars named more ih =>
      obtain ⟨room, rfl⟩ : ∃ left, room = left + 1 := ⟨room - 1, by grind⟩
      have later := ih room (Nat.le_of_succ_le_succ fits)
      have boundary := more.endsRun closes.endsRun
      have opened : colon? first (lead first ++ (digits ++ (chars ++ rest)))
          = some (digits ++ (chars ++ rest)) :=
        colon?_eq_some_iff.mpr rfl
      have taken : group? (digits ++ (chars ++ rest)) = some (group, chars ++ rest) :=
        group?_eq_some_iff.mpr
          ⟨digits, rfl, named, boundary.mono fun c digit => by simp [ne_colon_of_isDigit digit]⟩
      simp only [List.append_assoc, readGroups, opened, read?_v4_of_isGroup named boundary,
        ite_self, taken, later]
  | @embedded first address =>
      obtain ⟨room, rfl⟩ : ∃ left, room = left + 1 := ⟨room - 1, by grind [Ipv4.groups]⟩
      have enough : 1 ≤ room := Nat.le_of_succ_le_succ fits
      have opened : colon? first (lead first ++ (address.chars ++ rest))
          = some (address.chars ++ rest) :=
        colon?_eq_some_iff.mpr rfl
      have taken : Ipv4.read? (address.chars ++ rest) = some (address, rest) := by
        refine Ipv4.read?_eq_some_iff.mpr ⟨rfl, closes.endsRun.mono fun c decimal => ?_⟩
        simp [ne_colon_of_isDigit (isDigit_of_decimal decimal)]
      simp only [List.append_assoc, readGroups, opened, enough, if_true, taken]

/-- Reading accepts exactly the spellings of an address. -/
theorem read?_eq_some_iff {address : Ipv6}
    : read? text = some (address, []) ↔ Spelled address text := by
  constructor
  · intro read
    rcases shape : readGroups true 8 text with ⟨front, embedded, behind⟩
    obtain ⟨fits, before, rfl, frontRun⟩ := written_of_readGroups shape
    simp only [read?, shape] at read
    split at read
    next all =>
      obtain ⟨rfl, rfl⟩ := by simpa using read
      rw [List.append_nil]
      exact .whole frontRun all
    next fewer =>
      split at read
      next => simp at read
      next bare =>
        obtain rfl : embedded = false := Bool.eq_false_iff.mpr bare
        split at read
        next after =>
          rcases backShape : readGroups true (7 - front.length) after with ⟨back, ends, last⟩
          obtain ⟨room, after, rfl, backRun⟩ := written_of_readGroups backShape
          obtain ⟨rfl, rfl⟩ := by simpa [backShape] using read
          rw [List.append_nil]
          exact .shortened frontRun backRun (by omega)
        next => simp at read
  · intro spelled
    cases spelled with
    | whole run all =>
        have taken := readGroups_of_written run (.inl rfl) 8 all.le
        rw [List.append_nil] at taken
        simp only [read?, taken, all, if_true]
    | @shortened embedded front back before after frontRun backRun room =>
        have taken := readGroups_of_written frontRun (.inr ⟨after, rfl⟩) 8 (by omega)
        have behind := readGroups_of_written backRun (.inl rfl) (7 - front.length) (by omega)
        rw [List.append_nil] at behind
        have fewer : front.length ≠ 8 := by omega
        simp only [read?, taken, fewer, if_false, Bool.false_eq_true, behind]

theorem Written.mem {chars : List Char} (written : Written first embedded groups chars) {c : Char}
    (member : c ∈ chars)
    : isDigit c = true ∨ c = ':' ∨ c = '.' := by
  have leads {first : Bool} (front : c ∈ lead first) : c = ':' := by
    unfold lead at front
    split at front
    · simp at front
    · simpa using front
  induction written with
  | none => simp at member
  | group named _ ih =>
      rcases List.mem_append.mp member with front | member
      · exact .inr (.inl (leads front))
      · rcases List.mem_append.mp member with digit | later
        · exact .inl (named.within c digit)
        · exact ih later
  | embedded address =>
      rcases List.mem_append.mp member with front | later
      · exact .inr (.inl (leads front))
      · rcases Ipv4.mem_chars later with decimal | point
        · exact .inl (isDigit_of_decimal decimal)
        · exact .inr (.inr point)

theorem Spelled.mem {address : Ipv6} (spelled : Spelled address text) {c : Char}
    (member : c ∈ text)
    : isDigit c = true ∨ c = ':' ∨ c = '.' := by
  cases spelled with
  | whole run => exact run.mem member
  | shortened frontRun backRun =>
      simp only [List.mem_append, List.mem_cons] at member
      rcases member with before | colon | colon | after
      · exact frontRun.mem before
      · exact .inr (.inl colon)
      · exact .inr (.inl colon)
      · exact backRun.mem after

/-- Eight groups do not stand without a colon, and fewer do not either. -/
theorem Spelled.colon_mem {address : Ipv6} (spelled : Spelled address text) : ':' ∈ text := by
  cases spelled with
  | shortened => simp
  | whole run all =>
      cases run with
      | none => simp at all
      | embedded => simp [Ipv4.groups] at all
      | group named more =>
          cases more with
          | none => simp at all
          | group => simp [lead]
          | embedded => simp [lead]

end Ipv6

-----------------------------------------------------------------------------------------
-- Either version
-----------------------------------------------------------------------------------------

namespace IpAddress

/-- How an address is written: one of the fourth version as its own text only. -/
def Spelled : IpAddress → List Char → Prop
  | v4 address, text => text = address.text.toList
  | v6 address, text => Ipv6.Spelled address text

/-- The fourth version has no colons, so no text is a spelling in both versions. -/
theorem read?_v4_of_spelled {address : Ipv6} {chars : List Char}
    (spelled : Ipv6.Spelled address chars) (other : Ipv4)
    : Ipv4.read? chars ≠ some (other, []) := by
  intro read
  obtain ⟨same, -⟩ := Ipv4.read?_eq_some_iff.mp read
  rw [List.append_nil] at same
  have colon := Ipv4.mem_chars (same ▸ spelled.colon_mem)
  exact absurd colon (by decide)

/-- A text is read as an address exactly if it is a spelling of it. -/
theorem ofText?_eq_some_iff {text : String} {address : IpAddress}
    : ofText? text = some address ↔ address.Spelled text.toList := by
  unfold ofText?
  cases address with
  | v4 address =>
      constructor
      · intro read
        split at read
        next found taken =>
          obtain rfl := by simpa using read
          obtain ⟨same, -⟩ := Ipv4.read?_eq_some_iff.mp taken
          rwa [List.append_nil, ← found.toList_text] at same
        next => split at read <;> simp at read
      · intro spelled
        have same : text.toList = address.chars ++ [] := by
          rw [List.append_nil, ← address.toList_text]
          exact spelled
        simp only [Ipv4.read?_eq_some_iff.mpr ⟨same, endsRun_nil⟩]
  | v6 address =>
      constructor
      · intro read
        split at read
        next => simp at read
        next =>
          split at read
          next found taken =>
            obtain rfl := by simpa using read
            exact Ipv6.read?_eq_some_iff.mp taken
          next => simp at read
      · intro spelled
        have taken := Ipv6.read?_eq_some_iff.mpr spelled
        split
        next other found => exact absurd found (read?_v4_of_spelled spelled other)
        next => simp only [taken]

/-- No spelling has a slash in it. -/
theorem Spelled.slash_not_mem {address : IpAddress} {chars : List Char}
    (spelled : address.Spelled chars)
    : '/' ∉ chars := by
  intro member
  cases address with
  | v4 address =>
      have text : chars = address.text.toList := spelled
      rw [text, address.toList_text] at member
      exact absurd (Ipv4.mem_chars member) (by decide)
  | v6 address =>
      have kind := Ipv6.Spelled.mem spelled member
      exact absurd kind (by decide)

end IpAddress

end NetInventory
