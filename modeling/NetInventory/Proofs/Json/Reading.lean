import NetInventory.Json.Codec
import NetInventory.Proofs.Json.Words

/-! A printed value read back. The words of a value lead from any open arrays and objects to that
value supplied to them, and so a codec reads the bytes of a value as it reads the value itself.
-/

namespace NetInventory.Json

namespace Draft

/-- Words that stand where a value may stand, and supply it wherever it is wanted. -/
private def Supplies (json : Json) : Prop :=
  ∀ frames expectation rest,
    expectation = .value ∨ expectation = .firstItem
    → readFrom (.reading frames expectation) (json.words ++ rest)
      = readFrom (supply frames (.ofJson json)) rest

/-- A word that does not close an array begins a value where one may stand. -/
private theorem advance_value {frames : List Frame} {expectation : Expectation} {token : Token}
    (wanted : expectation = .value ∨ expectation = .firstItem) (opens : token ≠ .closeArray)
    : advance frames expectation token = begin frames token := by
  rcases wanted with rfl | rfl
  · cases token <;> rfl
  · unfold advance
    split <;> simp_all

private theorem readFrom_begin {frames : List Frame} {expectation : Expectation} {token : Token}
    (rest : List Token) (wanted : expectation = .value ∨ expectation = .firstItem)
    (opens : token ≠ .closeArray)
    : readFrom (.reading frames expectation) (token :: rest)
      = readFrom (begin frames token) rest := by
  rw [readFrom, advance_value wanted opens]

private theorem readFrom_itemsWords {items : List Json} (each : ∀ item ∈ items, Supplies item)
    (nonempty : items ≠ []) (before : List Draft) (frames : List Frame)
    {expectation : Expectation} (wanted : expectation = .value ∨ expectation = .firstItem)
    (rest : List Token)
    : readFrom (.reading (.array before :: frames) expectation)
        (itemsWords items ++ .closeArray :: rest)
      = readFrom (supply frames (.array (before.reverse ++ ofItems items))) rest := by
  -- The array grows by one item, and a value is wanted behind each comma.
  induction items generalizing before expectation with
  | nil => exact absurd rfl nonempty
  | cons item items ih =>
      have first := each item List.mem_cons_self
      cases items with
      | nil =>
          rw [itemsWords, first _ _ _ wanted]
          simp [supply, Frame.add, readFrom, advance, Frame.close, ofItems]
      | cons next items =>
          have later := ih (fun other among => each other (List.mem_cons_of_mem _ among))
            (List.cons_ne_nil _ _) (.ofJson item :: before) (.inl rfl)
          rw [itemsWords, List.append_assoc, first _ _ _ wanted]
          simp only [supply, Frame.add, List.cons_append, readFrom, advance, later, ofItems,
            List.reverse_cons, List.append_assoc, List.nil_append]

private theorem readFrom_membersWords {members : List (String × Json)}
    (each : ∀ member ∈ members, Supplies member.2) (nonempty : members ≠ [])
    (before : List (Option String × Draft)) (frames : List Frame) {expectation : Expectation}
    (wanted : expectation = .name ∨ expectation = .firstName) (rest : List Token)
    : readFrom (.reading (.object before none :: frames) expectation)
        (membersWords members ++ .closeObject :: rest)
      = readFrom (supply frames (.object (before.reverse ++ ofMembers members))) rest := by
  induction members generalizing before expectation with
  | nil => exact absurd rfl nonempty
  | cons member members ih =>
      obtain ⟨name, value⟩ := member
      have first := each (name, value) List.mem_cons_self
      have named (tail : List Token)
          : readFrom (.reading (.object before none :: frames) expectation)
              (.string (some name) :: .colon :: tail)
            = readFrom (.reading (.object before (some name) :: frames) .value) tail := by
        rcases wanted with rfl | rfl
        · rfl
        · cases before <;> rfl
      cases members with
      | nil =>
          simp only [membersWords, List.cons_append]
          rw [named, first _ _ _ (.inl rfl)]
          simp [supply, Frame.add, readFrom, advance, Frame.close, ofMembers]
      | cons next members =>
          have later := ih (fun other among => each other (List.mem_cons_of_mem _ among))
            (List.cons_ne_nil _ _) ((some name, .ofJson value) :: before)
            (.inl rfl)
          simp only [membersWords, List.cons_append, List.append_assoc]
          rw [named, first _ _ _ (.inl rfl)]
          simp only [supply, Frame.add, readFrom, advance, later, ofMembers,
            List.reverse_cons, List.append_assoc, List.cons_append, List.nil_append]

/-- The words of a value supply it, by induction on the value. -/
private theorem supplies {json : Json} (whole : json.Whole) : Supplies json := by
  induction whole with
  | null => exact fun _ _ rest wanted => readFrom_begin rest wanted (by simp)
  | bool => exact fun _ _ rest wanted => readFrom_begin rest wanted (by simp)
  | number _ => exact fun _ _ rest wanted => readFrom_begin rest wanted (by simp)
  | string => exact fun _ _ rest wanted => readFrom_begin rest wanted (by simp)
  | @array items _ each =>
      intro frames expectation rest wanted
      rw [words, List.cons_append, List.cons_append, readFrom_begin _ wanted (by simp),
        List.append_assoc]
      cases items with
      | nil => rfl
      | cons item items =>
          exact readFrom_itemsWords each (List.cons_ne_nil _ _) [] frames (.inr rfl) rest
  | @object members _ each =>
      intro frames expectation rest wanted
      rw [words, List.cons_append, List.cons_append, readFrom_begin _ wanted (by simp),
        List.append_assoc]
      cases members with
      | nil => rfl
      | cons member members =>
          exact readFrom_membersWords each (List.cons_ne_nil _ _) [] frames (.inr rfl) rest

/-- The bytes of a value are read as that value, with nothing behind it. -/
theorem read_toBytes {json : Json} (whole : json.Whole)
    : read (tokens json.toBytes) = (.ofJson json, []) := by
  have all := supplies whole [] .value [] (.inl rfl)
  rw [List.append_nil] at all
  rw [tokens_toBytes whole, read, all]
  rfl

end Draft

/-- A codec reads the bytes of a value as it reads the value. -/
theorem Codec.ofBytes_toBytes {α : Type} (codec : Codec α) {json : Json} (whole : json.Whole)
    : codec.ofBytes json.toBytes = codec.ofJson json := by
  simp only [ofBytes, Draft.read_toBytes whole, ofJson]
  cases codec.decode depthLimit (.ofJson json) <;> rfl

/-- What is read from bytes is read from their first value. -/
theorem Codec.decode_of_ofBytes {α : Type} {codec : Codec α} {bytes : ByteArray} {value : α}
    (read : codec.ofBytes bytes = .ok value)
    : codec.decode depthLimit (Draft.read (tokens bytes)).1 = .ok value := by
  simp only [ofBytes] at read
  cases decoded : codec.decode depthLimit (Draft.read (tokens bytes)).1 with
  | error fault => simp [decoded] at read
  | ok other =>
      simp only [decoded] at read
      split at read
      · exact read
      · cases read

end NetInventory.Json
