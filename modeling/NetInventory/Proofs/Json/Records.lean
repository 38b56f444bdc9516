import NetInventory.Proofs.Json.Keeping

/-! Records that are read. What counts for a field is what stands for it in the draft: in an object
the member of its name, of which there can be one only, and in an array the item at its place.
-/

namespace NetInventory.Json

-----------------------------------------------------------------------------------------
-- Parts
-----------------------------------------------------------------------------------------

/-- What stands in a draft for the field of a place and a name. Of the members of an object the
first one of the name counts.
-/
def Draft.part? (place : Nat) (name : String) : Draft → Option Draft
  | .object members => members.lookup (some name)
  | .array items => items[place]?
  | _ => none

/-- The draft holds the part for the field of a place and a name, perhaps besides others. -/
def Draft.HasPart (place : Nat) (name : String) (draft part : Draft) : Prop :=
  match draft with
  | .object members => (some name, part) ∈ members
  | .array items => items[place]? = some part
  | _ => False

/-- What stands in a value for the field of a place and a name. -/
def part? (place : Nat) (name : String) : Json → Option Json
  | .object members => members.lookup name
  | .array items => items[place]?
  | _ => none

/-- A part of an ordered value is ordered. -/
theorem Ordered.part? {place : Nat} {name : String} {json part : Json} (ordered : json.Ordered)
    (found : json.part? place name = some part)
    : part.Ordered := by
  cases ordered with
  | array each => exact each part (List.mem_of_getElem? found)
  | object _ each =>
      obtain ⟨front, rest, rfl, -⟩ := List.lookup_eq_some_iff.mp found
      exact each (name, part) (by simp)
  | _ => cases found

theorem Draft.lookup_ofMembers (members : List (String × Json)) (name : String)
    : (Draft.ofMembers members).lookup (some name) = (members.lookup name).map .ofJson := by
  rw [Draft.ofMembers_eq]
  induction members with
  | nil => rfl
  | cons member members ih =>
      rw [List.map_cons, List.lookup_cons, List.lookup_cons, ih]
      by_cases same : name = member.1
      · simp [same]
      · simp [beq_false_of_ne same]

/-- Members of different names are found under their names, by induction on them. -/
theorem lookup_of_mem {members : List (String × Json)} (distinct : (members.map (·.1)).Nodup)
    {member : String × Json} (among : member ∈ members)
    : members.lookup member.1 = some member.2 := by
  induction members with
  | nil => cases among
  | cons first members ih =>
      obtain ⟨name, value⟩ := first
      obtain ⟨once, distinct⟩ := List.nodup_cons.mp distinct
      rcases List.mem_cons.mp among with rfl | later
      · exact List.lookup_cons_self
      · have listed : member.1 ∈ members.map (·.1) := List.mem_map_of_mem later
        have other : member.1 ≠ name := fun same => once (same ▸ listed)
        rw [List.lookup_cons, beq_false_of_ne other, ih distinct later]

theorem Draft.part?_ofJson (place : Nat) (name : String) (json : Json)
    : (Draft.ofJson json).part? place name = (json.part? place name).map .ofJson := by
  cases json with
  | null | bool | number | string => rfl
  | array items => simp [Draft.ofJson, Draft.part?, Json.part?, Draft.ofItems_eq]
  | object members => simp [Draft.ofJson, Draft.part?, Json.part?, Draft.lookup_ofMembers]

-----------------------------------------------------------------------------------------
-- Plain values
-----------------------------------------------------------------------------------------

namespace Codec

theorem string_decode_ofJson_iff {depth : Nat} {json : Json} {value : String}
    : string.decode depth (.ofJson json) = .ok value ↔ json = .string value := by
  cases json <;> simp [string, Draft.ofJson]

theorem bool_decode_ofJson_iff {depth : Nat} {json : Json} {value : Bool}
    : bool.decode depth (.ofJson json) = .ok value ↔ json = .bool value := by
  cases json <;> simp [bool, Draft.ofJson]

private theorem toNat_of_between {n : Int} {value : UInt64}
    (found
      : (between 0 (UInt64.size - 1) n).map (fun inside => UInt64.ofNat inside.toNat) = some value)
    : n = value.toNat := by
  obtain ⟨inside, bounded, rfl⟩ := Option.map_eq_some_iff.mp found
  rw [between, Option.ite_none_right_eq_some] at bounded
  obtain ⟨bounds, same⟩ := bounded
  obtain rfl := Option.some.inj same
  have size : UInt64.size = 18446744073709551616 := rfl
  simp only [Bool.and_eq_true, decide_eq_true_eq] at bounds
  rw [UInt64.toNat_ofNat_of_lt' (by omega)]
  omega

theorem uint64_decode_ofJson_iff {depth : Nat} {json : Json} {value : UInt64}
    : uint64.decode depth (.ofJson json) = .ok value ↔ json = .ofNat value.toNat := by
  constructor
  · intro read
    cases json with
    | number content =>
        cases content with
        | real literal => cases read
        | integer n =>
            simp only [uint64, integer, Draft.ofJson] at read
            split at read
            next result found =>
              obtain rfl := Except.ok.inj read
              rw [toNat_of_between found]
              rfl
            next => cases read
    | _ => cases read
  · rintro rfl
    exact (Carries.uint64 value).decoded depth (Nat.zero_le _)

end Codec

-----------------------------------------------------------------------------------------
-- Fields
-----------------------------------------------------------------------------------------

/-- The field has the value: it is read from what stands for it, and nothing stands for a field that
has its fallback.
-/
def Field.Finds {α : Type} (field : Field α) (depth : Nat) (found : Option Draft) (value : α)
    : Prop :=
  match found with
  | some part => field.codec.decode depth part = .ok value
  | none => field.fallback = some value

/-- A field that has to be there has what is read from the part that stands for it in a value. -/
theorem Field.finds_required_iff {α : Type} {name heading : String} {codec : Codec α}
    {depth place : Nat} {json : Json} {value : α}
    : (Field.required name codec).Finds depth ((Draft.ofJson json).part? place heading) value
      ↔ ∃ part, json.part? place heading = some part ∧ codec.decode depth (.ofJson part) = .ok value
    := by
  rw [Draft.part?_ofJson]
  cases json.part? place heading <;> simp [Field.Finds, Field.required]

namespace Fields

variable {σ : Type}

/-- The fields from a place on have the values in a draft. -/
def Hold {σ : Type} (depth : Nat) (draft : Draft) (place : Nat) : Fields σ → σ → Prop
  | .nil, _ => True
  | .cons field rest, (value, values) =>
    field.Finds depth (draft.part? place field.name) value
    ∧ rest.Hold depth draft (place + 1) values

private theorem absent_eq_ok_iff {α : Type} {field : Field α} {value : α}
    : field.absent = .ok value ↔ field.fallback = some value := by
  unfold Field.absent
  cases field.fallback <;> simp

/-- The members of an object are gathered as the values that the fields have in it, by induction on
the fields.
-/
theorem gather_eq_ok_iff {fields : Fields σ} {depth : Nat} {members : List (Option String × Draft)}
    {values : σ} (place : Nat)
    : fields.gather depth members = .ok values
      ↔ fields.Hold depth (.object members) place values := by
  induction fields generalizing place with
  | nil => simp [gather, Hold]
  | cons field rest ih =>
      obtain ⟨value, values⟩ := values
      simp only [Hold, ← ih, Field.Finds, Draft.part?, gather]
      cases members.lookup (some field.name) with
      | none => simp [bind_eq_ok_iff, absent_eq_ok_iff, pure, Except.pure]
      | some part => simp [bind_eq_ok_iff, pure, Except.pure]

/-- The items of an array are taken as the values that the fields have in it, by induction on the
fields.
-/
theorem hold_of_ofItems {fields : Fields σ} {depth : Nat} {items : List Draft} {values : σ}
    (place : Nat) (read : fields.ofItems depth (items.drop place) = .ok values)
    : fields.Hold depth (.array items) place values := by
  induction fields generalizing place with
  | nil => trivial
  | cons field rest ih =>
      obtain ⟨value, values⟩ := values
      have first : items[place]? = (items.drop place).head? := List.head?_drop.symm
      have later (taken : rest.ofItems depth (items.drop place).tail = .ok values)
          : rest.Hold depth (.array items) (place + 1) values :=
        ih (place + 1) (List.tail_drop ▸ taken)
      simp only [Hold, Field.Finds, Draft.part?, first]
      cases left : items.drop place with
      | nil =>
          rw [left] at read later
          simp only [ofItems, bind_eq_ok_iff, absent_eq_ok_iff] at read
          obtain ⟨_, fallback, _, taken, same⟩ := read
          cases same
          exact ⟨fallback, later taken⟩
      | cons item items =>
          rw [left] at read later
          simp only [ofItems, bind_eq_ok_iff] at read
          obtain ⟨_, decoded, _, taken, same⟩ := read
          cases same
          exact ⟨decoded, later taken⟩

/-- What a field has its value from passes the check, by induction on the fields. -/
theorem Hold.checkValue {fields : Fields σ} {depth place : Nat}
    {members : List (Option String × Draft)} {values : σ}
    (hold : fields.Hold depth (.object members) place values) {name : String} {part : Draft}
    (found : members.lookup (some name) = some part)
    : fields.checkValue depth name part = .ok () := by
  induction fields generalizing place with
  | nil => rfl
  | cons field rest ih =>
      obtain ⟨value, values⟩ := values
      obtain ⟨first, later⟩ := hold
      unfold Fields.checkValue
      split
      next same =>
        subst same
        rw [Draft.part?, found] at first
        exact map_eq_ok_iff.mpr ⟨value, first, rfl⟩
      next => exact ih later

/-- How the check goes on behind a member: a field joins the names that were seen, and was not
among them.
-/
private theorem checkMembers_cons {fields : Fields σ} {unknown : Nat → Draft → Except Fault Unit}
    {depth : Nat} {seen : List String} {heading : Option String} {value : Draft}
    {members : List (Option String × Draft)}
    (checked : fields.checkMembers unknown depth seen ((heading, value) :: members) = .ok ())
    : ∃ name,
        heading = some name
        ∧ (name ∉ fields.names ∧ fields.checkMembers unknown depth seen members = .ok ()
          ∨ name ∉ seen ∧ fields.checkMembers unknown depth (name :: seen) members = .ok ()) := by
  cases heading with
  | none => cases checked
  | some name =>
      refine ⟨name, rfl, ?_⟩
      unfold checkMembers at checked
      split at checked
      next foreign =>
        have other : name ∉ fields.names := fun named => by simp [hasName_iff.mpr named] at foreign
        cases passed : unknown depth value with
        | error fault => simp [passed] at checked
        | ok => exact .inl ⟨other, by simpa [passed] using checked⟩
      next =>
        split at checked
        next => cases checked
        next unseen =>
          cases fit : fields.checkValue depth name value with
          | error fault => simp [fit] at checked
          | ok => exact .inr ⟨by simpa using unseen, by simpa [fit] using checked⟩

/-- Members that pass the check hold at most one part for a field, and none for one that was seen.
Induction on the members, where the name of each field joins the ones that were seen.
-/
theorem lookup_of_checkMembers {fields : Fields σ} {unknown : Nat → Draft → Except Fault Unit}
    {depth : Nat} {seen : List String} {members : List (Option String × Draft)} {name : String}
    {part : Draft} (checked : fields.checkMembers unknown depth seen members = .ok ())
    (named : name ∈ fields.names) (among : (some name, part) ∈ members)
    : name ∉ seen ∧ members.lookup (some name) = some part := by
  induction members generalizing seen with
  | nil => cases among
  | cons member members ih =>
      obtain ⟨_, value⟩ := member
      obtain ⟨heading, rfl, goesOn⟩ := checkMembers_cons checked
      have behind (other : name ≠ heading)
          : ((some heading, value) :: members).lookup (some name)
            = members.lookup (some name) := by
        rw [List.lookup_cons, beq_false_of_ne (by simpa using other)]
      rcases List.mem_cons.mp among with first | later
      · obtain ⟨rfl, rfl⟩ := by simpa using first
        rcases goesOn with ⟨foreign, -⟩ | ⟨unseen, -⟩
        · exact absurd named foreign
        · exact ⟨unseen, List.lookup_cons_self⟩
      · rcases goesOn with ⟨foreign, goesOn⟩ | ⟨-, goesOn⟩
        · obtain ⟨unseen, found⟩ := ih goesOn later
          exact ⟨unseen, (behind fun same => foreign (same ▸ named)).trans found⟩
        · obtain ⟨unseen, found⟩ := ih goesOn later
          obtain ⟨other, unseen⟩ := not_or.mp (mt List.mem_cons.mpr unseen)
          exact ⟨unseen, (behind other).trans found⟩

end Fields

-----------------------------------------------------------------------------------------
-- Records
-----------------------------------------------------------------------------------------

namespace Codec

variable {α σ : Type} {fields : Fields σ} {split : α → σ} {build : σ → α} {value : α}

private theorem enter_eq_ok_iff {β : Type} {depth : Nat} {inside : Nat → Except Fault β}
    {value : β}
    : enter depth inside = .ok value ↔ ∃ left, depth = left + 1 ∧ inside left = .ok value := by
  cases depth <;> simp [enter]

private theorem readMembers_eq_ok_iff {unknown : Nat → Draft → Except Fault Unit} {depth : Nat}
    {members : List (Option String × Draft)} {values : σ}
    : readMembers fields unknown members depth = .ok values
      ↔ fields.checkMembers unknown depth [] members = .ok ()
        ∧ fields.Hold depth (.object members) 0 values := by
  rw [← Fields.gather_eq_ok_iff, readMembers]
  cases fields.checkMembers unknown depth [] members <;> simp [bind, Except.bind]

private theorem record_decode_members {depth : Nat} {members : List (Option String × Draft)}
    (read : (record fields split build).decode depth (.object members) = .ok value)
    : ∃ left values,
        fields.checkMembers skip left [] members = .ok ()
        ∧ fields.Hold left (.object members) 0 values
        ∧ build values = value := by
  obtain ⟨values, inside, built⟩ := map_eq_ok_iff.mp read
  obtain ⟨left, -, taken⟩ := enter_eq_ok_iff.mp inside
  obtain ⟨checked, hold⟩ := readMembers_eq_ok_iff.mp taken
  exact ⟨left, values, checked, hold, built⟩

/-- A record that is read has the values that its fields have in the draft. -/
theorem record_decode {depth : Nat} {draft : Draft}
    (read : (record fields split build).decode depth draft = .ok value)
    : ∃ left values, fields.Hold left draft 0 values ∧ build values = value := by
  cases draft with
  | object members =>
      obtain ⟨left, values, -, hold, built⟩ := record_decode_members read
      exact ⟨left, values, hold, built⟩
  | array items =>
      obtain ⟨values, inside, built⟩ := map_eq_ok_iff.mp read
      obtain ⟨left, -, taken⟩ := enter_eq_ok_iff.mp inside
      exact ⟨left, values, Fields.hold_of_ofItems 0 taken, built⟩
  | _ => cases read

/-- The draft of a record that is read holds no other part for a field than the one that counts. -/
theorem record_decode_part {depth : Nat} {draft part : Draft} {place : Nat} {name : String}
    (read : (record fields split build).decode depth draft = .ok value)
    (named : name ∈ fields.names) (has : draft.HasPart place name part)
    : draft.part? place name = some part := by
  cases draft with
  | object members =>
      obtain ⟨_, _, checked, -, -⟩ := record_decode_members read
      exact (Fields.lookup_of_checkMembers checked named has).2
  | array items => exact has
  | _ => exact has.elim

/-- A record is read from an object with members of different names if its fields have values in
it.
-/
theorem record_decode_object_iff {depth : Nat} {members : List (String × Json)}
    (distinct : (members.map (·.1)).Nodup)
    : (record fields split build).decode (depth + 1) (.ofJson (.object members)) = .ok value
      ↔ ∃ values,
          fields.Hold depth (.ofJson (.object members)) 0 values ∧ build values = value := by
  simp only [record, Draft.ofJson, enter, map_eq_ok_iff, readMembers_eq_ok_iff]
  refine exists_congr fun values => and_congr_left fun _ => and_iff_right_of_imp fun hold => ?_
  refine Fields.checkMembers_ofMembers skip ?_ ?_ distinct [] (by simp)
  · intro member among _
    refine hold.checkValue ?_
    rw [Draft.lookup_ofMembers, lookup_of_mem distinct among, Option.map_some]
  · intro member _ _
    rw [skip, if_pos (Draft.intact_ofJson member.2)]

end Codec

end NetInventory.Json
