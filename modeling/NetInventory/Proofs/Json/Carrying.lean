import NetInventory.Json.Record
import NetInventory.Proofs.Json.Reading
import NetInventory.Proofs.SortedMap

/-! Codecs that carry values. A value is carried if it is read back from what is written of it, with
as many arrays and objects open as its own nesting needs. Lists, maps and records carry what their
parts carry, so a value of any such type arrives as it was sent.
-/

namespace NetInventory.Json

open Draft (ofItems ofMembers)

theorem Draft.ofItems_eq (items : List Json) : ofItems items = items.map .ofJson := by
  induction items with
  | nil => rfl
  | cons item items ih => simp [ofItems, ih]

theorem Draft.ofMembers_eq (members : List (String × Json))
    : ofMembers members = members.map fun member => (some member.1, .ofJson member.2) := by
  induction members with
  | nil => rfl
  | cons member members ih => simp [ofMembers, ih]

/-- What the codec writes of the value has numbers of 64 bits only and is read as the value, as long
as so many arrays and objects may still be open inside one another.
-/
structure Codec.Carries {α : Type} (codec : Codec α) (height : Nat) (value : α) : Prop where
  whole : (codec.encode value).Whole
  decoded
    : ∀ depth, height ≤ depth → codec.decode depth (.ofJson (codec.encode value)) = .ok value

namespace Codec.Carries

variable {α : Type} {codec : Codec α} {height : Nat} {value : α}

/-- A value that is carried is read from the bytes that are written of it. -/
theorem ofBytes (carries : codec.Carries depthLimit value)
    : codec.ofBytes (codec.encode value).toBytes = .ok value := by
  rw [codec.ofBytes_toBytes carries.whole]
  exact carries.decoded depthLimit le_rfl

-----------------------------------------------------------------------------------------
-- Plain values
-----------------------------------------------------------------------------------------

theorem string (value : String) : Codec.string.Carries height value :=
  ⟨.string, fun _ _ => rfl⟩

theorem bool (value : Bool) : Codec.bool.Carries height value :=
  ⟨.bool, fun _ _ => rfl⟩

/-- A number that fits is carried if it is the one that is read from its value. -/
theorem integer {encode : α → Int} {decode? : Int → Option α} (fits : Fits (encode value))
    (back : decode? (encode value) = some value)
    : (Codec.integer encode decode?).Carries height value := by
  refine ⟨.number fits, fun depth _ => ?_⟩
  simp [Codec.integer, ofInt, Draft.ofJson, back]

theorem int64 (value : Int64) : Codec.int64.Carries height value := by
  have bounds := And.intro value.minValue_le_toInt value.toInt_le
  refine .integer ⟨?_, ?_⟩ ?_
  · exact value.le_toInt
  · exact value.toInt_lt.trans (by decide)
  · rw [Codec.between, if_pos (by simpa only [Bool.and_eq_true, decide_eq_true_eq] using bounds)]
    simp

private theorem between_of_lt {n size : Nat} (below : n < size)
    : Codec.between 0 (size - 1) n = some (n : Int) := by
  rw [Codec.between, if_pos (by simp; omega)]

theorem uint64 (value : UInt64) : Codec.uint64.Carries height value := by
  have below : value.toNat < UInt64.size := value.toNat_lt
  refine .integer ⟨?_, ?_⟩ ?_
  · exact (by decide : -(UInt64.size / 2 : Int) ≤ 0).trans (Int.natCast_nonneg _)
  · exact_mod_cast below
  · rw [between_of_lt below]
    simp

theorem uint16 (value : UInt16) : Codec.uint16.Carries height value := by
  have below : value.toNat < UInt16.size := value.toNat_lt
  refine .integer ⟨?_, ?_⟩ ?_
  · exact (by decide : -(UInt64.size / 2 : Int) ≤ 0).trans (Int.natCast_nonneg _)
  · exact (Int.ofNat_lt.mpr below).trans (by decide)
  · rw [between_of_lt below]
    simp

/-- A named value is carried if its name leads back to it. -/
theorem choice {name : α → String} {ofName? : String → Option α}
    (back : ofName? (name value) = some value)
    : (Codec.choice name ofName?).Carries height value := by
  refine ⟨.string, fun depth _ => ?_⟩
  simp [Codec.choice, Draft.ofJson, back]

-----------------------------------------------------------------------------------------
-- Lists and maps
-----------------------------------------------------------------------------------------

private theorem readAll_map {β γ δ : Type} {read : β → Except Fault γ} {write : δ → β}
    (result : δ → γ) {sources : List δ}
    (each : ∀ source ∈ sources, read (write source) = .ok (result source))
    : readAll read (sources.map write) = .ok (sources.map result) := by
  induction sources with
  | nil => rfl
  | cons source sources ih =>
      have first := each source List.mem_cons_self
      have later := ih fun other among => each other (List.mem_cons_of_mem _ among)
      simp [readAll, first, later]

private theorem enter_of_le {β : Type} {depth : Nat} (room : height + 1 ≤ depth)
    (inside : Nat → Except Fault β)
    : ∃ left, height ≤ left ∧ enter depth inside = inside left := by
  obtain ⟨left, rfl⟩ : ∃ left, depth = left + 1 := ⟨depth - 1, by omega⟩
  exact ⟨left, by omega, rfl⟩

/-- A list is read from an array if its elements are read from the items. -/
theorem decode_list {β : Type} {sources : List β} {write : β → Json} {result : β → α}
    (each
      : ∀ source ∈ sources, ∀ depth,
          height ≤ depth
          → codec.decode depth (.ofJson (write source)) = .ok (result source))
    {depth : Nat} (room : height + 1 ≤ depth)
    : (Codec.list codec).decode depth (.ofJson (.array (sources.map write)))
      = .ok (sources.map result) := by
  simp only [Codec.list, Draft.ofJson, Draft.ofItems_eq, List.map_map]
  obtain ⟨left, enough, entered⟩ :=
    enter_of_le room fun depth => readAll (codec.decode depth) (sources.map (Draft.ofJson ∘ write))
  rw [entered]
  exact readAll_map result fun source member => each source member left enough

theorem list {values : List α} (each : ∀ value ∈ values, codec.Carries height value)
    : (Codec.list codec).Carries (height + 1) values where
  whole := by
    refine .array fun item among => ?_
    obtain ⟨value, member, rfl⟩ := List.mem_map.mp among
    exact (each value member).whole
  decoded depth room := by
    have read := decode_list (fun value member => (each value member).decoded) room
    rwa [List.map_id'] at read

theorem map {entries : SortedMap α} (each : ∀ value ∈ entries.values, codec.Carries height value)
    : (Codec.map codec).Carries (height + 1) entries where
  whole := by
    refine .object fun member among => ?_
    obtain ⟨entry, present, rfl⟩ := List.mem_map.mp among
    exact (each entry.2 (List.mem_map_of_mem present)).whole
  decoded depth room := by
    simp only [Codec.map, Draft.ofJson, Draft.ofMembers_eq, List.map_map]
    obtain ⟨left, enough, entered⟩ :=
      enter_of_le room fun depth =>
        (readAll (readMember (codec.decode depth)) (entries.toList.map
          ((fun member : String × Json => (some member.1, Draft.ofJson member.2))
            ∘ fun entry => (entry.1, codec.encode entry.2)))).map SortedMap.ofList
    rw [entered, readAll_map id fun entry member => ?_]
    · rw [List.map_id]
      exact congrArg Except.ok entries.ofList_toList
    · have value := (each entry.2 (List.mem_map_of_mem member)).decoded left enough
      simp [readMember, value, Except.map]

end Codec.Carries

-----------------------------------------------------------------------------------------
-- Records
-----------------------------------------------------------------------------------------

namespace Field

variable {α : Type} {name : String} {codec : Codec α} {fallback value : α} {height : Nat}

/-- The field is left out with its fallback only, and carries any other value. -/
def Carries (field : Field α) (height : Nat) (value : α) : Prop :=
  if field.omits value then field.fallback = some value else field.codec.Carries height value

theorem Carries.required (carries : codec.Carries height value)
    : (Field.required name codec).Carries height value :=
  carries

theorem Carries.optional (carries : codec.Carries height value)
    : (Field.optional name codec fallback).Carries height value :=
  carries

/-- The value with which a sparse field is left out has to be the fallback. -/
theorem Carries.sparse {omits : α → Bool} (left : omits value = true → fallback = value)
    (carries : codec.Carries height value)
    : (Field.sparse name codec fallback omits).Carries height value := by
  unfold Field.Carries
  split
  next omitted => exact congrArg some (left omitted)
  next => exact carries

end Field

namespace Fields

variable {σ : Type}

def names {σ : Type} : Fields σ → List String
  | .nil => []
  | .cons field rest => field.name :: rest.names

/-- Every field carries its value. -/
def Carries {σ : Type} (height : Nat) : Fields σ → σ → Prop
  | .nil, () => True
  | .cons field rest, (value, values) => field.Carries height value ∧ rest.Carries height values

theorem names_members (fields : Fields σ) (values : σ)
    : ((fields.members values).map (·.1)).Sublist fields.names := by
  induction fields with
  | nil => exact .slnil
  | cons field rest ih =>
      obtain ⟨value, values⟩ := values
      unfold members
      split
      next => exact (ih values).cons _
      next => exact (ih values).cons_cons _

theorem hasName_iff {fields : Fields σ} {name : String}
    : fields.hasName name = true ↔ name ∈ fields.names := by
  induction fields with
  | nil => simp [hasName, names]
  | cons field rest ih =>
      simp only [hasName, names, Bool.or_eq_true, decide_eq_true_eq, ih, List.mem_cons]
      exact or_congr_left eq_comm

theorem whole_members {height : Nat} {fields : Fields σ} {values : σ}
    (carries : fields.Carries height values)
    : ∀ member ∈ fields.members values, member.2.Whole := by
  induction fields with
  | nil => intro member among; simp [members] at among
  | cons field rest ih =>
      obtain ⟨value, values⟩ := values
      obtain ⟨first, others⟩ := carries
      intro member among
      unfold members at among
      split at among
      next => exact ih others member among
      next kept =>
        rw [Field.Carries, if_neg kept] at first
        rcases List.mem_cons.mp among with rfl | later
        · exact first.whole
        · exact ih others member later

theorem checkValue_members {height depth : Nat} (room : height ≤ depth) {fields : Fields σ}
    {values : σ} (distinct : fields.names.Nodup) (carries : fields.Carries height values)
    : ∀ member ∈ fields.members values,
        fields.checkValue depth member.1 (.ofJson member.2) = .ok () := by
  induction fields with
  | nil => intro member among; simp [members] at among
  | cons field rest ih =>
      obtain ⟨value, values⟩ := values
      obtain ⟨first, others⟩ := carries
      obtain ⟨fresh, distinct⟩ := List.nodup_cons.mp distinct
      -- A member of a later field has another name, so this field does not check it.
      have elsewhere (member : String × Json) (among : member ∈ rest.members values)
          : (Fields.cons field rest).checkValue depth member.1 (.ofJson member.2) = .ok () := by
        have named := (rest.names_members values).subset (List.mem_map_of_mem among)
        have other : field.name ≠ member.1 := fun same => fresh (same ▸ named)
        rw [checkValue, if_neg other]
        exact ih distinct others member among
      intro member among
      unfold members at among
      split at among
      next => exact elsewhere member among
      next kept =>
        rw [Field.Carries, if_neg kept] at first
        rcases List.mem_cons.mp among with rfl | later
        · simp [checkValue, first.decoded depth room, Except.map]
        · exact elsewhere member later

/-- Members of different names pass the check if those of fields fit and the others may be there, by
induction on them.
-/
theorem checkMembers_ofMembers {fields : Fields σ} (unknown : Nat → Draft → Except Fault Unit)
    {depth : Nat} {members : List (String × Json)}
    (fit
      : ∀ member ∈ members,
          member.1 ∈ fields.names → fields.checkValue depth member.1 (.ofJson member.2) = .ok ())
    (other
      : ∀ member ∈ members, member.1 ∉ fields.names → unknown depth (.ofJson member.2) = .ok ())
    (distinct : (members.map (·.1)).Nodup) (seen : List String)
    (fresh : ∀ member ∈ members, member.1 ∉ seen)
    : fields.checkMembers unknown depth seen (ofMembers members) = .ok () := by
  induction members generalizing seen with
  | nil => rfl
  | cons member members ih =>
      obtain ⟨name, value⟩ := member
      obtain ⟨once, distinct⟩ := List.nodup_cons.mp distinct
      have later := ih (fun next among => fit next (List.mem_cons_of_mem _ among))
        (fun next among => other next (List.mem_cons_of_mem _ among)) distinct
      have before (next : String × Json) (among : next ∈ members) : next.1 ∉ seen :=
        fresh next (List.mem_cons_of_mem _ among)
      by_cases named : name ∈ fields.names
      · have known : fields.hasName name = true := hasName_iff.mpr named
        have first : name ∉ seen := fresh _ List.mem_cons_self
        have checked : fields.checkValue depth name (.ofJson value) = .ok () :=
          fit _ List.mem_cons_self named
        have rest := later (name :: seen) fun next among again => by
          rcases List.mem_cons.mp again with same | earlier
          · have listed : next.1 ∈ members.map (·.1) := List.mem_map_of_mem among
            exact once (same ▸ listed)
          · exact before next among earlier
        simp [ofMembers, checkMembers, known, first, checked, rest]
      · have foreign : fields.hasName name = false :=
          Bool.eq_false_iff.mpr (mt hasName_iff.mp named)
        have passed : unknown depth (.ofJson value) = .ok () := other _ List.mem_cons_self named
        simp [ofMembers, checkMembers, foreign, passed, later seen before]

theorem lookup_members {fields : Fields σ} {values : σ} {name : String}
    (absent : name ∉ fields.names)
    : (ofMembers (fields.members values)).lookup (some name) = none := by
  rw [Draft.ofMembers_eq, List.lookup_eq_none_iff]
  intro member among
  obtain ⟨written, present, rfl⟩ := List.mem_map.mp among
  have named := (fields.names_members values).subset (List.mem_map_of_mem present)
  have other : name ≠ written.1 := fun same => absent (same ▸ named)
  simpa using other

/-- The values of the fields are found among the members that are written of them, whatever members
of other names stand in front. Witness: induction on the fields, each of which joins what stands in
front of the later ones.
-/
theorem gather_members {height depth : Nat} (room : height ≤ depth) {fields : Fields σ}
    {values : σ} (distinct : fields.names.Nodup) (carries : fields.Carries height values)
    (front : List (Option String × Draft))
    (apart : ∀ name ∈ fields.names, front.lookup (some name) = none)
    : fields.gather depth (front ++ ofMembers (fields.members values)) = .ok values := by
  induction fields generalizing front with
  | nil => rfl
  | cons field rest ih =>
      obtain ⟨value, values⟩ := values
      obtain ⟨first, others⟩ := carries
      obtain ⟨fresh, distinct⟩ := List.nodup_cons.mp distinct
      have clear := apart field.name List.mem_cons_self
      unfold gather members
      split
      next left =>
        rw [Field.Carries, if_pos left] at first
        have missing
            : (front ++ ofMembers (rest.members values)).lookup (some field.name) = none := by
          rw [List.lookup_append, clear, lookup_members fresh, Option.or_none]
        have later := ih distinct others front fun name among =>
          apart name (List.mem_cons_of_mem _ among)
        simp [missing, Field.absent, first, later, bind, Except.bind, pure, Except.pure]
      next kept =>
        rw [Field.Carries, if_neg kept] at first
        have written := first.decoded depth room
        have later := ih distinct others
          (front ++ [(some field.name, .ofJson (field.codec.encode value))])
          fun name among => by
            have other : name ≠ field.name := fun same => fresh (same ▸ among)
            rw [List.lookup_append, apart name (List.mem_cons_of_mem _ among)]
            simp [other]
        rw [List.append_assoc, List.singleton_append] at later
        simp [ofMembers, List.lookup_append, clear, written, later, bind, Except.bind, pure,
          Except.pure]

-----------------------------------------------------------------------------------------
-- Members that are no field
-----------------------------------------------------------------------------------------

/-- Members that pass behind any others leave the check to those in front, by induction on them. -/
theorem checkMembers_append {fields : Fields σ} {unknown : Nat → Draft → Except Fault Unit}
    {depth : Nat} {spare : List (Option String × Draft)}
    (passed : ∀ seen, fields.checkMembers unknown depth seen spare = .ok ())
    (front : List (Option String × Draft)) (seen : List String)
    : fields.checkMembers unknown depth seen (front ++ spare)
      = fields.checkMembers unknown depth seen front := by
  induction front generalizing seen with
  | nil => exact passed seen
  | cons member front ih =>
      obtain ⟨name, value⟩ := member
      cases name with
      | none => rfl
      | some name => simp only [List.cons_append, checkMembers, ih]

theorem checkMembers_spare {fields : Fields σ} {unknown : Nat → Draft → Except Fault Unit}
    {depth : Nat} {spare : List (String × Json)}
    (other : ∀ member ∈ spare, member.1 ∉ fields.names)
    (fit : ∀ member ∈ spare, unknown depth (.ofJson member.2) = .ok ()) (seen : List String)
    : fields.checkMembers unknown depth seen (ofMembers spare) = .ok () := by
  induction spare with
  | nil => rfl
  | cons member spare ih =>
      have foreign : fields.hasName member.1 = false :=
        Bool.eq_false_iff.mpr (mt hasName_iff.mp (other _ List.mem_cons_self))
      have first := fit _ List.mem_cons_self
      have later := ih (fun member among => other member (List.mem_cons_of_mem _ among))
        fun member among => fit member (List.mem_cons_of_mem _ among)
      simp [ofMembers, checkMembers, foreign, first, later]

/-- Only what is found under the names of the fields counts, by induction on the fields. -/
theorem gather_congr {fields : Fields σ} {depth : Nat} {left right : List (Option String × Draft)}
    (same : ∀ name ∈ fields.names, left.lookup (some name) = right.lookup (some name))
    : fields.gather depth left = fields.gather depth right := by
  induction fields with
  | nil => rfl
  | cons field rest ih =>
      have first := same field.name List.mem_cons_self
      have later := ih fun name among => same name (List.mem_cons_of_mem _ among)
      simp only [gather, first, later]

end Fields

namespace Codec.Carries

variable {α σ : Type} {fields : Fields σ} {split : α → σ} {build : σ → α} {value : α}
  {height : Nat}

private theorem readMembers_members (unknown : Nat → Draft → Except Fault Unit) {values : σ}
    (distinct : fields.names.Nodup) (carries : fields.Carries height values) {depth : Nat}
    (room : height ≤ depth)
    : readMembers fields unknown (ofMembers (fields.members values)) depth = .ok values := by
  have written := fields.names_members values
  have checked := Fields.checkMembers_ofMembers unknown
    (fun member among _ => Fields.checkValue_members room distinct carries member among)
    (fun member among foreign => absurd (written.subset (List.mem_map_of_mem among)) foreign)
    (distinct.sublist written) [] (by simp)
  have gathered := Fields.gather_members room distinct carries [] (by simp)
  rw [List.nil_append] at gathered
  simp [readMembers, checked, gathered, bind, Except.bind]

private theorem enter_members (unknown : Nat → Draft → Except Fault Unit) {values : σ}
    (distinct : fields.names.Nodup) (carries : fields.Carries height values) {depth : Nat}
    (room : height + 1 ≤ depth)
    : enter depth (readMembers fields unknown (ofMembers (fields.members values)))
      = .ok values := by
  obtain ⟨left, enough, entered⟩ := enter_of_le room
    (readMembers fields unknown (ofMembers (fields.members values)))
  rw [entered]
  exact readMembers_members unknown distinct carries enough

/-- A record is carried if its fields are and have different names. -/
theorem record (distinct : fields.names.Nodup) (carries : fields.Carries height (split value))
    (back : build (split value) = value)
    : (Codec.record fields split build).Carries (height + 1) value where
  whole := .object (Fields.whole_members carries)
  decoded depth room := by
    simp only [Codec.record, Draft.ofJson, enter_members skip distinct carries room]
    exact congrArg Except.ok back

/-- The same for records that are read from objects only. -/
theorem objectRecord (distinct : fields.names.Nodup)
    (carries : fields.Carries height (split value)) (back : build (split value) = value)
    : (Codec.objectRecord fields split build).Carries (height + 1) value where
  whole := .object (Fields.whole_members carries)
  decoded depth room := by
    simp only [Codec.objectRecord, Draft.ofJson, enter_members drop distinct carries room]
    exact congrArg Except.ok back

end Codec.Carries

-----------------------------------------------------------------------------------------
-- Objects that say more
-----------------------------------------------------------------------------------------

mutual

/-- The draft of a value does not break off, by recursion on the value. -/
theorem Draft.intact_ofJson (json : Json) : (Draft.ofJson json).intact = true := by
  cases json with
  | null | bool | number | string => rfl
  | array items => exact allIntact_ofItems items
  | object members => exact membersIntact_ofMembers members

private theorem allIntact_ofItems (items : List Json)
    : Draft.allIntact (ofItems items) = true := by
  cases items with
  | nil => rfl
  | cons item items =>
      simp [ofItems, Draft.allIntact, Draft.intact_ofJson item, allIntact_ofItems items]

private theorem membersIntact_ofMembers (members : List (String × Json))
    : Draft.membersIntact (ofMembers members) = true := by
  cases members with
  | nil => rfl
  | cons member members =>
      obtain ⟨name, value⟩ := member
      simp [ofMembers, Draft.membersIntact, Draft.intact_ofJson value,
        membersIntact_ofMembers members]

end

/-- A record is read from an object as if members of other names behind were not there. -/
theorem Codec.decode_record_append {α σ : Type} {fields : Fields σ} {split : α → σ} {build : σ → α}
    {spare : List (String × Json)} (other : ∀ member ∈ spare, member.1 ∉ fields.names)
    (front : List (String × Json)) (depth : Nat)
    : (Codec.record fields split build).decode depth (.ofJson (.object (front ++ spare)))
      = (Codec.record fields split build).decode depth (.ofJson (.object front)) := by
  have parts : ofMembers (front ++ spare) = ofMembers front ++ ofMembers spare := by
    simp only [Draft.ofMembers_eq, List.map_append]
  have checked (depth : Nat)
      : fields.checkMembers skip depth [] (ofMembers (front ++ spare))
        = fields.checkMembers skip depth [] (ofMembers front) := by
    rw [parts]
    refine Fields.checkMembers_append (fun seen => ?_) _ []
    refine Fields.checkMembers_spare other (fun member _ => ?_) seen
    rw [skip, if_pos (Draft.intact_ofJson member.2)]
  have gathered (depth : Nat)
      : fields.gather depth (ofMembers (front ++ spare))
        = fields.gather depth (ofMembers front) := by
    rw [parts]
    refine Fields.gather_congr fun name field => ?_
    have absent : (ofMembers spare).lookup (some name) = none := by
      rw [Draft.ofMembers_eq, List.lookup_eq_none_iff]
      intro draft among
      obtain ⟨member, present, rfl⟩ := List.mem_map.mp among
      have apart : name ≠ member.1 := fun same => other member present (same ▸ field)
      simpa using apart
    rw [List.lookup_append, absent, Option.or_none]
  have read
      : readMembers fields skip (ofMembers (front ++ spare))
        = readMembers fields skip (ofMembers front) := by
    funext depth
    simp only [readMembers, checked, gathered]
  simp only [Codec.record, Draft.ofJson, read]

end NetInventory.Json
