import NetInventory.Proofs.Json.Carrying

/-! Values that are kept, whatever their shape. The room decides whether a draft is kept, and not as
what. A kept value has the members of its objects in the order of their names and one of each, and
it stays as it is when it is kept again.
-/

namespace NetInventory.Json

/-- The members of every object inside the value stand in strictly increasing order of names. -/
inductive Ordered : Json → Prop
  | null : Ordered .null
  | bool {value} : Ordered (.bool value)
  | number {value} : Ordered (.number value)
  | string {value} : Ordered (.string value)
  | array {items} (each : ∀ item ∈ items, Ordered item) : Ordered (.array items)
  | object {members} (sorted : members.Pairwise fun left right => left.1 < right.1)
      (each : ∀ member ∈ members, Ordered member.2)
    : Ordered (.object members)

/-- In an ordered value the names of the members of an object are different. -/
theorem Ordered.names_nodup {members : List (String × Json)} (ordered : Ordered (.object members))
    : (members.map (·.1)).Nodup := by
  cases ordered with
  | object sorted _ => exact List.pairwise_map.mpr (sorted.imp fun below => below.ne)

-----------------------------------------------------------------------------------------
-- Results of one and of many
-----------------------------------------------------------------------------------------

section
variable {ε α β : Type}

theorem map_eq_ok_iff {f : α → β} {result : Except ε α} {value : β}
    : result.map f = .ok value ↔ ∃ inner, result = .ok inner ∧ f inner = value := by
  cases result <;> simp [Except.map]

theorem bind_eq_ok_iff {next : α → Except ε β} {result : Except ε α} {value : β}
    : result >>= next = .ok value ↔ ∃ inner, result = .ok inner ∧ next inner = .ok value := by
  cases result <;> simp [bind, Except.bind]

theorem bind_eq_error_iff {next : α → Except ε β} {result : Except ε α} {error : ε}
    : result >>= next = .error error
      ↔ result = .error error ∨ ∃ inner, result = .ok inner ∧ next inner = .error error := by
  cases result <;> simp [bind, Except.bind]

/-- Everything is read if each element is, and then in its order, by induction on the elements. -/
theorem readAll_eq_ok_iff {read : α → Except Fault β} {sources : List α} {values : List β}
    : readAll read sources = .ok values
      ↔ List.Forall₂ (fun source value => read source = .ok value) sources values := by
  induction sources generalizing values with
  | nil => simp [readAll, eq_comm]
  | cons source sources ih =>
      simp only [List.forall₂_cons_left_iff, ← ih, readAll]
      cases read source with
      | error fault => simp
      | ok value => cases readAll read sources <;> simp [eq_comm]

end

section
variable {α β : Type} {sources : List α} {values others : List β} {left right : α → β → Prop}

/-- Of two lists that are related element by element, each element of the right one has a partner,
by induction on the relation.
-/
theorem exists_of_mem_right (all : List.Forall₂ left sources values) {value : β}
    (among : value ∈ values)
    : ∃ source ∈ sources, left source value := by
  induction all with
  | nil => cases among
  | cons first _ ih =>
      rcases List.mem_cons.mp among with rfl | later
      · exact ⟨_, List.mem_cons_self, first⟩
      · obtain ⟨source, member, found⟩ := ih later
        exact ⟨source, List.mem_cons_of_mem _ member, found⟩

/-- Two lists are the same if what is related to one element on both sides is, by induction on the
relation.
-/
private theorem eq_of_unique (here : List.Forall₂ left sources values)
    (there : List.Forall₂ right sources others)
    (unique
      : ∀ source ∈ sources, ∀ value other,
          left source value → right source other → value = other)
    : values = others := by
  induction here generalizing others with
  | nil => cases there; rfl
  | cons first _ ih =>
      cases there with
      | cons second later =>
          have heads := unique _ List.mem_cons_self _ _ first second
          have tails := ih later fun source among => unique source (List.mem_cons_of_mem _ among)
          rw [heads, tails]

end

-----------------------------------------------------------------------------------------
-- Keeping
-----------------------------------------------------------------------------------------

/-- What holds of a draft if it holds of its items or of the values of its members holds of every
draft.
-/
theorem Draft.induct {holds : Draft → Prop} (null : holds .null)
    (bool : ∀ value, holds (.bool value)) (number : ∀ value, holds (.number value))
    (string : ∀ value, holds (.string value))
    (array : ∀ items, (∀ item ∈ items, holds item) → holds (.array items))
    (object : ∀ members, (∀ member ∈ members, holds member.2) → holds (.object members))
    (broken : holds .broken) (draft : Draft)
    : holds draft :=
  @Draft.rec holds (fun items => ∀ item ∈ items, holds item)
    (fun members => ∀ member ∈ members, holds member.2) (fun member => holds member.2)
    null bool number string array object broken
    (by simp) (fun _ _ first later => List.forall_mem_cons.mpr ⟨first, later⟩)
    (by simp) (fun _ _ first later => List.forall_mem_cons.mpr ⟨first, later⟩)
    (fun _ _ value => value) draft

private theorem keepItems_eq (depth : Nat) (items : List Draft)
    : keepItems depth items = readAll (keep depth) items := by
  induction items with
  | nil => rfl
  | cons item items ih =>
      rw [keepItems, readAll, ih]
      cases keep depth item with
      | error fault => rfl
      | ok value => cases readAll (keep depth) items <;> rfl

private theorem keepMembers_eq (depth : Nat) (members : List (Option String × Draft))
    : keepMembers depth members = readAll (Codec.readMember (keep depth)) members := by
  induction members with
  | nil => rfl
  | cons member members ih =>
      obtain ⟨name, item⟩ := member
      cases name with
      | none => rfl
      | some name =>
          simp only [keepMembers, readAll, ih, Codec.readMember]
          cases keep depth item with
          | error fault => rfl
          | ok value => cases readAll (Codec.readMember (keep depth)) members <;> rfl

private theorem readMember_eq_ok_iff {α : Type} {read : Draft → Except Fault α}
    {member : Option String × Draft} {value : String × α}
    : Codec.readMember read member = .ok value
      ↔ member.1 = some value.1 ∧ read member.2 = .ok value.2 := by
  obtain ⟨name, item⟩ := member
  cases name with
  | none => simp [Codec.readMember]
  | some name => simp [Codec.readMember, map_eq_ok_iff, Prod.ext_iff, and_comm]

/-- An array is kept if its items are. -/
theorem keep_array_eq_ok_iff {depth : Nat} {items : List Draft} {json : Json}
    : keep depth (.array items) = .ok json
      ↔ ∃ left values,
          depth = left + 1
          ∧ List.Forall₂ (fun item value => keep left item = .ok value) items values
          ∧ .array values = json := by
  cases depth with
  | zero => simp [keep]
  | succ depth => simp [keep, map_eq_ok_iff, keepItems_eq, readAll_eq_ok_iff]

/-- An object is kept if the values of its members are, and names can be. -/
theorem keep_object_eq_ok_iff {depth : Nat} {members : List (Option String × Draft)} {json : Json}
    : keep depth (.object members) = .ok json
      ↔ ∃ left values,
          depth = left + 1
          ∧ List.Forall₂
              (fun member value => member.1 = some value.1 ∧ keep left member.2 = .ok value.2)
              members values
          ∧ .object (SortedMap.ofList values).toList = json := by
  cases depth with
  | zero => simp [keep]
  | succ depth =>
      simp [keep, map_eq_ok_iff, keepMembers_eq, readAll_eq_ok_iff, readMember_eq_ok_iff]

/-- A kept value is ordered, by induction on what it is kept of. -/
theorem keep_ordered {depth : Nat} {draft : Draft} {json : Json}
    (kept : keep depth draft = .ok json)
    : json.Ordered := by
  induction draft using Draft.induct generalizing depth json with
  | null => cases kept; exact .null
  | bool value => cases kept; exact .bool
  | number value => cases value <;> cases kept; exact .number
  | string value => cases value <;> cases kept; exact .string
  | array items each =>
      obtain ⟨left, values, rfl, read, rfl⟩ := keep_array_eq_ok_iff.mp kept
      refine .array fun value among => ?_
      obtain ⟨item, member, kept⟩ := exists_of_mem_right read among
      exact each item member kept
  | object members each =>
      obtain ⟨left, values, rfl, read, rfl⟩ := keep_object_eq_ok_iff.mp kept
      refine .object (SortedMap.sorted _) fun value among => ?_
      obtain ⟨member, present, -, kept⟩ :=
        exists_of_mem_right read (SortedMap.mem_of_mem_ofList among)
      exact each member present kept
  | broken => cases kept

/-- The room does not change what is kept, by induction on what it is kept of. -/
theorem keep_unique {depth room : Nat} {draft : Draft} {json other : Json}
    (kept : keep depth draft = .ok json) (again : keep room draft = .ok other)
    : json = other := by
  induction draft using Draft.induct generalizing depth room json other with
  | null | bool | broken => exact Except.ok.inj (kept.symm.trans again)
  | number value | string value =>
      cases value <;> exact Except.ok.inj (kept.symm.trans again)
  | array items each =>
      obtain ⟨_, values, rfl, here, rfl⟩ := keep_array_eq_ok_iff.mp kept
      obtain ⟨_, others, rfl, there, rfl⟩ := keep_array_eq_ok_iff.mp again
      rw [eq_of_unique here there fun item member _ _ => each item member]
  | object members each =>
      obtain ⟨_, values, rfl, here, rfl⟩ := keep_object_eq_ok_iff.mp kept
      obtain ⟨_, others, rfl, there, rfl⟩ := keep_object_eq_ok_iff.mp again
      rw [eq_of_unique here there fun member present value other first second => ?_]
      have names : some value.1 = some other.1 := first.1.symm.trans second.1
      have same : value.2 = other.2 := each member present first.2 second.2
      exact Prod.ext (Option.some.inj names) same

/-- An ordered value is kept as it is, by induction on the value. -/
theorem Ordered.keep_ofJson {depth : Nat} {json kept : Json} (ordered : json.Ordered)
    (again : keep depth (.ofJson json) = .ok kept)
    : kept = json := by
  induction ordered generalizing depth kept with
  | null | bool | number | string => exact (Except.ok.inj again).symm
  | @array items _ each =>
      rw [Draft.ofJson, Draft.ofItems_eq] at again
      obtain ⟨_, values, rfl, read, rfl⟩ := keep_array_eq_ok_iff.mp again
      rw [List.forall₂_map_left_iff] at read
      have itself : List.Forall₂ Eq items items := List.forall₂_refl _
      rw [eq_of_unique read itself fun item member value _ first same => ?_]
      exact (each item member first).trans same
  | @object members sorted _ each =>
      rw [Draft.ofJson, Draft.ofMembers_eq] at again
      obtain ⟨_, values, rfl, read, rfl⟩ := keep_object_eq_ok_iff.mp again
      rw [List.forall₂_map_left_iff] at read
      have itself : List.Forall₂ Eq members members := List.forall₂_refl _
      rw [eq_of_unique read itself fun member present value _ first same => ?_]
      · exact congrArg (fun map => Json.object (SortedMap.toList map))
          (SortedMap.ofList_toList ⟨members, sorted⟩)
      · have names : value.1 = member.1 := (Option.some.inj first.1).symm
        exact (Prod.ext names (each member present first.2)).trans same

/-- A list of values of any shape is read as an array is kept. -/
theorem Codec.list_any_decode_iff {depth : Nat} {draft : Draft} {values : List Json}
    : (Codec.list .any).decode depth draft = .ok values
      ↔ keep depth draft = .ok (.array values) := by
  cases draft with
  | array items =>
      cases depth with
      | zero => simp [list, keep, enter]
      | succ depth => simp [list, keep, enter, map_eq_ok_iff, keepItems_eq, any]
  | object members => simp [list, keep_object_eq_ok_iff]
  | number value | string value => cases value <;> simp [list, keep]
  | _ => simp [list, keep]

/-- A value of any shape that may be missing is the one that is kept, unless that is null. -/
theorem Codec.option_any_decode {depth room : Nat} {draft : Draft} {found : Option Json}
    {value : Json} (read : (Codec.option .any).decode depth draft = .ok found)
    (kept : keep room draft = .ok value)
    : found = some value ∨ value = .null := by
  simp only [option] at read
  split at read
  next => exact .inr (Except.ok.inj kept).symm
  next =>
    obtain ⟨other, again, rfl⟩ := map_eq_ok_iff.mp read
    exact .inl (congrArg some (keep_unique again kept))

end NetInventory.Json
