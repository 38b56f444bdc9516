import Mathlib.Data.List.TakeWhile
import NetInventory.Json.Printer
import NetInventory.Json.Token
import NetInventory.Proofs.Text.Digits

/-! The words of a printed value. Printing and taking apart agree: the bytes of a text are read as
its characters, the digits of a number as that number, an escaped string as that string, and so a
printed value as its own words.
-/

namespace NetInventory

-----------------------------------------------------------------------------------------
-- Characters
-----------------------------------------------------------------------------------------

private theorem Utf8.symbolsFrom_encode (front : ByteArray) (chars : List Char)
    : symbolsFrom (front ++ chars.utf8Encode) front.size = chars.map some := by
  -- Each character that is read joins the bytes in front.
  induction chars generalizing front with
  | nil =>
      rw [symbolsFrom]
      simp
  | cons c rest ih =>
      have size : [c].utf8Encode.size = c.utf8Size := by simp [List.utf8Encode_singleton]
      have decoded : (front ++ (c :: rest).utf8Encode).utf8DecodeChar? front.size = some c := by
        rw [ByteArray.utf8DecodeChar?_eq_utf8DecodeChar?_extract, ByteArray.size_append,
          ByteArray.extract_append_eq_right rfl rfl]
        exact List.utf8DecodeChar?_utf8Encode_cons
      have more : front.size < (front ++ (c :: rest).utf8Encode).size := by
        rw [ByteArray.size_append, List.utf8Encode_cons, ByteArray.size_append, size]
        have := c.utf8Size_pos
        omega
      rw [symbolsFrom, if_pos more, decoded, List.map_cons]
      have later := ih (front ++ [c].utf8Encode)
      rw [ByteArray.size_append, size, ByteArray.append_assoc, ← List.utf8Encode_cons] at later
      exact congrArg _ later

theorem Utf8.symbols_toUTF8 (text : String)
    : symbols text.toUTF8 = text.toList.map some := by
  have whole := symbolsFrom_encode .empty text.toList
  rwa [ByteArray.empty_append, String.utf8Encode_toList] at whole

namespace Json

open NetInventory.Utf8 (Symbol)

-----------------------------------------------------------------------------------------
-- Numbers
-----------------------------------------------------------------------------------------

/-- The number fits 64 bits, with a sign if it is negative. -/
def Fits (value : Int) : Prop :=
  -(UInt64.size / 2 : Int) ≤ value ∧ value < UInt64.size

private theorem wholePart?_toDigits (n : Nat)
    : wholePart? (Nat.toDigits 10 n) = some (Nat.toDigits 10 n, []) := by
  have run : digitRun? (Nat.toDigits 10 n) = some (Nat.toDigits 10 n, []) := by
    have taken : (Nat.toDigits 10 n).takeWhile Char.isDigit = Nat.toDigits 10 n :=
      List.takeWhile_eq_self_iff.mpr (Text.isNumeral_toDigits n).2
    have left : (Nat.toDigits 10 n).dropWhile Char.isDigit = [] :=
      List.dropWhile_eq_nil_iff.mpr (Text.isNumeral_toDigits n).2
    unfold digitRun?
    rw [taken, left]
    split
    next none => exact absurd none Nat.toDigits_ne_nil
    next => rfl
  unfold wholePart?
  rw [run]
  split
  next second rest more shape =>
    -- Only the digits of zero begin with zero, and there is one of them.
    obtain ⟨shape, -⟩ := Prod.mk.inj (Option.some.inj shape)
    rcases Nat.eq_zero_or_pos n with rfl | positive
    · simp at shape
    · exact absurd (by rw [shape]; rfl) (Text.head?_toDigits positive)
  next => rfl

/-- The text of a whole number is a literal of its sign and its digits. -/
theorem read?_integerChars (value : Int)
    : Literal.read? (integerChars value)
      = some (⟨decide (value < 0), Nat.toDigits 10 value.natAbs, [], none⟩, []) := by
  have whole := wholePart?_toDigits value.natAbs
  unfold integerChars Literal.read?
  by_cases negative : value < 0
  · simp [negative, whole, optionalPart]
  · cases shape : Nat.toDigits 10 value.natAbs with
    | nil => exact absurd shape Nat.toDigits_ne_nil
    | cons first rest =>
        have digit : first.isDigit = true :=
          (Text.isNumeral_toDigits value.natAbs).2 first (shape ▸ List.mem_cons_self)
        have unsigned : first ≠ '-' := fun minus => by simp [minus] at digit
        rw [shape] at whole
        simp [negative, unsigned, whole, optionalPart]

theorem numberTokens_integerChars {value : Int} (fits : Fits value)
    : numberTokens (integerChars value) = [.number (some (.integer value))] := by
  obtain ⟨least, greatest⟩ := fits
  have size : UInt64.size = 18446744073709551616 := rfl
  simp only [numberTokens, read?_integerChars, Literal.number?, Text.digitsValue_toDigits,
    wordBound, List.isEmpty_nil, Option.isNone_none, Bool.and_self, Bool.true_and]
  by_cases negative : value < 0
  · have bound : 0 < value.natAbs ∧ value.natAbs ≤ UInt64.size / 2 := by omega
    have back : -(value.natAbs : Int) = value := by omega
    simp only [negative, decide_true, Bool.not_true, Bool.false_and, Bool.false_eq_true, if_false,
      bound, Bool.and_self, if_true, back]
  · have bound : value.natAbs < UInt64.size := by omega
    have back : (value.natAbs : Int) = value := by omega
    simp only [negative, decide_false, Bool.not_false, bound, decide_true, Bool.and_self, if_true,
      back]

/-- The text does not go on with a number. -/
def Stops (rest : List Symbol) : Prop :=
  ∀ c tail, rest = some c :: tail → isNumberChar c = false

/-- A run of number characters ends where the text does not go on with one, by induction on it. -/
private theorem tokensFrom_number {chars : List Char} {rest : List Symbol}
    (run : ∀ c ∈ chars, isNumberChar c = true) (stops : Stops rest) (before : List Char)
    : tokensFrom (.number before) (chars.map some ++ rest)
      = numberTokens (before.reverse ++ chars) ++ tokensFrom .between rest := by
  induction chars generalizing before with
  | nil =>
      rw [List.map_nil, List.nil_append, List.append_nil]
      cases rest with
      | nil => simp [tokensFrom, finish]
      | cons symbol tail =>
          cases symbol with
          | none => simp [tokensFrom, step, begin]
          | some c => simp [tokensFrom, step, stops c tail rfl]
  | cons c chars ih =>
      have member := run c List.mem_cons_self
      have later := ih (fun d among => run d (List.mem_cons_of_mem _ among)) (c :: before)
      simp [tokensFrom, step, member, later]

private theorem begin_of_digit {c : Char} (first : c = '-' ∨ c.isDigit = true)
    : begin (some c) = ([], .number [c]) := by
  rcases first with rfl | digit
  · rfl
  · unfold begin
    split <;> simp_all

private theorem tokensFrom_integerChars {value : Int} {rest : List Symbol} (fits : Fits value)
    (stops : Stops rest)
    : tokensFrom .between ((integerChars value).map some ++ rest)
      = .number (some (.integer value)) :: tokensFrom .between rest := by
  have word := numberTokens_integerChars fits
  have digits := (Text.isNumeral_toDigits value.natAbs).2
  have run (c : Char) (member : c ∈ integerChars value) : c = '-' ∨ c.isDigit = true := by
    unfold integerChars at member
    split at member
    · exact (List.mem_cons.mp member).imp_right (digits c)
    · exact .inr (digits c member)
  cases shape : integerChars value with
  | nil =>
      unfold integerChars at shape
      split at shape
      · simp at shape
      · exact absurd shape Nat.toDigits_ne_nil
  | cons first more =>
      rw [shape] at run word
      have begins := begin_of_digit (run first List.mem_cons_self)
      have goes (c : Char) (member : c ∈ more) : isNumberChar c = true := by
        rcases run c (List.mem_cons_of_mem _ member) with rfl | digit
        · rfl
        · simp [isNumberChar, digit]
      have rest := tokensFrom_number goes stops [first]
      simp only [List.map_cons, List.cons_append, tokensFrom, step, begins, rest]
      simp [word]

-----------------------------------------------------------------------------------------
-- Strings
-----------------------------------------------------------------------------------------

/-- The content of a string literal behind given characters, which stand last first. -/
private def Content.behind (before : List Char) : Content :=
  ⟨some before, none⟩

private theorem push_behind (before : List Char) (c : Char)
    : (Content.behind before).push c = .behind (c :: before) :=
  rfl

private theorem hexValue?_hexDigit {n : Nat} (digit : n < 16)
    : Text.hexValue? (Text.hexDigit n) = some n := by
  have all : ∀ m < 16, Text.hexValue? (Text.hexDigit m) = some m := by decide
  exact all n digit

private theorem tokensFrom_escapeChar (before : List Char) (c : Char) (rest : List Symbol)
    : tokensFrom (.string (.behind before)) ((escapeChar c).map some ++ rest)
      = tokensFrom (.string (.behind (c :: before))) rest := by
  unfold escapeChar
  split_ifs with quote backslash backspace feed line carriage tab control
  · subst quote
    rfl
  · subst backslash
    rfl
  · subst backspace
    rfl
  · subst feed
    rfl
  · subst line
    rfl
  · subst carriage
    rfl
  · subst tab
    rfl
  · -- A control character is written as the number of a UTF-16 unit, which is no surrogate.
    have high := hexValue?_hexDigit (n := c.toNat / 16) (by omega)
    have low := hexValue?_hexDigit (n := c.toNat % 16) (by omega)
    have zero : Text.hexValue? '0' = some 0 := rfl
    have number : c.toNat / 16 * 16 + c.toNat % 16 = c.toNat := by omega
    have unit : (Content.behind before).pushUnit c.toNat = .behind (c :: before) := by
      have small : ¬ (0xD800 ≤ c.toNat) ∧ ¬ (0xDC00 ≤ c.toNat) := by omega
      simp [Content.pushUnit, Content.behind, small, Content.push]
    simp [tokensFrom, step, high, low, zero, number, unit]
  · have literal : step (.string (.behind before)) (some c)
        = ([], .string (.behind (c :: before))) := by
      simp [step, control, push_behind]
    simp [tokensFrom, literal]

private theorem tokensFrom_stringChars (text : String) (rest : List Symbol)
    : tokensFrom .between ((stringChars text).map some ++ rest)
      = .string (some text) :: tokensFrom .between rest := by
  -- Inside the string, the characters read so far stand in the state.
  have closed (before : List Char) (chars : List Char)
      : tokensFrom (.string (.behind before))
          ((chars.flatMap escapeChar ++ ['\x22']).map some ++ rest)
        = .string (some (.ofList (before.reverse ++ chars))) :: tokensFrom .between rest := by
    induction chars generalizing before with
    | nil => simp [tokensFrom, step, Content.value, Content.behind]
    | cons c chars ih =>
        have later := ih (c :: before)
        rw [List.flatMap_cons, List.append_assoc, List.map_append, List.append_assoc,
          tokensFrom_escapeChar, later]
        simp
  have opened : begin (some '\x22') = ([], .string (.behind [])) := rfl
  have whole := closed [] text.toList
  simp only [List.reverse_nil, List.nil_append, String.ofList_toList] at whole
  simp only [stringChars, List.cons_append, List.map_cons, tokensFrom, step, opened,
    List.nil_append]
  exact whole

-----------------------------------------------------------------------------------------
-- Values
-----------------------------------------------------------------------------------------

/-- A value whose numbers are whole and fit 64 bits. -/
inductive Whole : Json → Prop
  | null : Whole .null
  | bool {value} : Whole (.bool value)
  | number {value} (fits : Fits value) : Whole (.number (.integer value))
  | string {value} : Whole (.string value)
  | array {items} (each : ∀ item ∈ items, Whole item) : Whole (.array items)
  | object {members} (each : ∀ member ∈ members, Whole member.2) : Whole (.object members)

mutual

def words : Json → List Token
  | .null => [.null]
  | .bool value => [.bool value]
  | .number value => [.number (some value)]
  | .string value => [.string (some value)]
  | .array items => .openArray :: itemsWords items ++ [.closeArray]
  | .object members => .openObject :: membersWords members ++ [.closeObject]

def itemsWords : List Json → List Token
  | [] => []
  | [item] => words item
  | item :: next :: rest => words item ++ .comma :: itemsWords (next :: rest)

def membersWords : List (String × Json) → List Token
  | [] => []
  | [(name, value)] => .string (some name) :: .colon :: words value
  | (name, value) :: next :: rest =>
      .string (some name) :: .colon :: words value ++ .comma :: membersWords (next :: rest)

end

/-- The text of a value is taken apart into its words, whatever follows that does not go on with
a number.
-/
private def TakenApart (json : Json) : Prop :=
  ∀ rest,
    Stops rest
    → tokensFrom .between (json.chars.map some ++ rest) = json.words ++ tokensFrom .between rest

private theorem stops_of_mark {c : Char} (mark : isNumberChar c = false) (rest : List Symbol)
    : Stops (some c :: rest) := by
  rintro _ _ shape
  obtain ⟨rfl, rfl⟩ := by simpa using shape
  exact mark

private theorem tokensFrom_itemsChars {items : List Json} {rest : List Symbol}
    (each : ∀ item ∈ items, TakenApart item) (stops : Stops rest)
    : tokensFrom .between ((itemsChars items).map some ++ rest)
      = itemsWords items ++ tokensFrom .between rest := by
  induction items with
  | nil => rfl
  | cons item items ih =>
      have first := each item List.mem_cons_self
      cases items with
      | nil => exact first rest stops
      | cons next items =>
          have later := ih fun other among => each other (List.mem_cons_of_mem _ among)
          have comma := first _ (stops_of_mark (c := ',') rfl
            ((itemsChars (next :: items)).map some ++ rest))
          simp only [itemsChars, itemsWords, List.map_append, List.map_cons, List.append_assoc,
            List.cons_append, comma]
          simp [tokensFrom, step, begin, later]

private theorem tokensFrom_membersChars {members : List (String × Json)} {rest : List Symbol}
    (each : ∀ member ∈ members, TakenApart member.2) (stops : Stops rest)
    : tokensFrom .between ((membersChars members).map some ++ rest)
      = membersWords members ++ tokensFrom .between rest := by
  induction members with
  | nil => rfl
  | cons member members ih =>
      obtain ⟨name, value⟩ := member
      have first := each (name, value) List.mem_cons_self
      cases members with
      | nil =>
          have whole := first rest stops
          simp only [membersChars, membersWords, List.map_append, List.map_cons,
            List.append_assoc, List.cons_append, tokensFrom_stringChars]
          simp [tokensFrom, step, begin, whole]
      | cons next members =>
          have later := ih fun other among => each other (List.mem_cons_of_mem _ among)
          have comma := first _ (stops_of_mark (c := ',') rfl
            ((membersChars (next :: members)).map some ++ rest))
          simp only [membersChars, membersWords, List.map_append, List.map_cons,
            List.append_assoc, List.cons_append, tokensFrom_stringChars]
          simp [tokensFrom, step, begin, comma, later]

/-- The text of a value is taken apart into its words, by induction on the value. -/
private theorem takenApart {json : Json} (whole : json.Whole) : TakenApart json := by
  induction whole with
  | null => exact fun rest _ => rfl
  | @bool value => exact fun rest _ => by cases value <;> rfl
  | number fits => exact fun rest stops => tokensFrom_integerChars fits stops
  | string => exact fun rest _ => tokensFrom_stringChars _ rest
  | array _ each =>
      intro rest stops
      have inside := tokensFrom_itemsChars each (stops_of_mark (c := ']') rfl rest)
      simp only [chars, words, List.map_append, List.map_cons, List.map_nil, List.append_assoc,
        List.cons_append, List.nil_append]
      simp [tokensFrom, step, begin, inside]
  | object _ each =>
      intro rest stops
      have inside := tokensFrom_membersChars each (stops_of_mark (c := '\x7d') rfl rest)
      simp only [chars, words, List.map_append, List.map_cons, List.map_nil, List.append_assoc,
        List.cons_append, List.nil_append]
      simp [tokensFrom, step, begin, inside]

/-- The bytes of a value are its words and nothing else. -/
theorem tokens_toBytes {json : Json} (whole : json.Whole) : tokens json.toBytes = json.words := by
  have all := takenApart whole [] (by rintro _ _ shape; simp at shape)
  rw [tokens, toBytes, Utf8.symbols_toUTF8, render, String.toList_ofList]
  simpa [tokensFrom, finish] using all

end Json

end NetInventory
