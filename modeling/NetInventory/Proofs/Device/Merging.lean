import NetInventory.Proofs.Device.Addresses

/-! The laws of merging. Each field is combined by a rule of its own, and each of the rules is
associative and idempotent; so records may be merged in groups, and a record that has been merged
already adds nothing. Flows that occur twice in one record stay twice. The record that says nothing
is neutral on the left, except that it does not let a time before the epoch through.
-/

namespace NetInventory.DeviceRecord

-----------------------------------------------------------------------------------------
-- Texts and times
-----------------------------------------------------------------------------------------

theorem laterText_self (text : String) : laterText text text = text := by
  simp [laterText]

theorem laterText_assoc (first second third : String)
    : laterText (laterText first second) third = laterText first (laterText second third) := by
  unfold laterText
  by_cases silent : third.isEmpty <;> simp only [silent, if_true, if_false, Bool.false_eq_true]

theorem laterTime_self (time : Int64) : laterTime time time = time := by
  simp [laterTime]

/-- The greatest of three times is found in either order. -/
theorem laterTime_assoc (first second third : Int64)
    : laterTime (laterTime first second) third = laterTime first (laterTime second third) := by
  simp only [laterTime, Int64.le_iff_toInt_le]
  split_ifs <;> first | rfl | omega

-----------------------------------------------------------------------------------------
-- Flows
-----------------------------------------------------------------------------------------

/-- A list to which everything has been added that it lacked lacks nothing. -/
theorem filter_not_contains_eq_nil {flows present : List Connection} (among : flows ⊆ present)
    : flows.filter (fun flow => !present.contains flow) = [] := by
  rw [List.filter_eq_nil_iff]
  intro flow member
  simp [among member]

/-- Two lists together lack of a third one what the first lacks of the rest that the second lacks.
Which flows are there is asked of the old list alone, so repetitions stay.
-/
theorem filter_not_contains_append (first second flows : List Connection)
    : flows.filter (fun flow =>
          !(first ++ second.filter (fun flow => !first.contains flow)).contains flow)
      = (flows.filter (fun flow => !second.contains flow)).filter
          (fun flow => !first.contains flow) := by
  rw [List.filter_filter]
  refine List.filter_congr fun flow _ => ?_
  by_cases present : flow ∈ first <;> simp [present]

-----------------------------------------------------------------------------------------
-- Records
-----------------------------------------------------------------------------------------

theorem merge_self (record : DeviceRecord) : record.merge record = record := by
  simp only [merge, laterText_self, laterTime_self, SortedMap.union_self,
    filter_not_contains_eq_nil (List.Subset.refl record.connections), List.append_nil]

/-- Records may be merged in groups. Witness: the rule of each field is associative. -/
theorem merge_assoc (first second third : DeviceRecord)
    : (first.merge second).merge third = first.merge (second.merge third) := by
  simp only [merge, laterText_assoc, laterTime_assoc, SortedMap.union_assoc,
    filter_not_contains_append, List.filter_append, List.append_assoc]

theorem merge_merge_self (existing incoming : DeviceRecord)
    : (existing.merge incoming).merge incoming = existing.merge incoming := by
  rw [merge_assoc, merge_self]

/-- Merging is associative and idempotent in every field, the order and the repetitions of flows
included, and so a record that has been merged already changes nothing.
-/
theorem merge_band (first second third : DeviceRecord)
    : (first.merge second).merge third = first.merge (second.merge third)
      ∧ first.merge first = first
      ∧ (first.merge second).merge second = first.merge second :=
  ⟨merge_assoc first second third, merge_self first, merge_merge_self first second⟩

-----------------------------------------------------------------------------------------
-- The record that says nothing
-----------------------------------------------------------------------------------------

theorem laterTime_eq_right_iff {existing incoming : Int64}
    : laterTime existing incoming = incoming ↔ existing ≤ incoming := by
  unfold laterTime
  split
  next before => simp [before]
  next after => exact ⟨fun same => absurd (same ▸ Int64.le_refl existing) after, (absurd · after)⟩

/-- A record that comes into the one that says nothing keeps all but its time: the record that says
nothing has the time of the epoch, and that is the later one of the two if the record is older.
-/
theorem blank_merge (record : DeviceRecord)
    : blank.merge record = { record with lastUpdate := laterTime 0 record.lastUpdate } := by
  have text (said : String) : laterText "" said = said := by
    rw [laterText_eq]
    exact ite_eq_right_iff.mpr Eq.symm
  simp [merge, blank, text, SortedMap.empty_union]

/-- The record that says nothing is neutral exactly for the records that are not older than the
epoch; of an older one it leaves everything but the time alone.
-/
theorem blank_merge_eq_iff (record : DeviceRecord)
    : (blank.merge record = record ↔ 0 ≤ record.lastUpdate)
      ∧ blank.merge record = { record with lastUpdate := laterTime 0 record.lastUpdate } := by
  refine ⟨⟨fun same => ?_, fun late => ?_⟩, blank_merge record⟩
  · have time : laterTime 0 record.lastUpdate = record.lastUpdate := congrArg (·.lastUpdate) same
    exact laterTime_eq_right_iff.mp time
  · rw [blank_merge, laterTime_eq_right_iff.mpr late]

/-- A record from a second before the epoch does not come out of the one that says nothing as it
went in.
-/
theorem blank_merge_early
    : let record : DeviceRecord := { withMac "aa:bb:cc:dd:ee:ff" with lastUpdate := -1 }
      blank.merge record ≠ record := by
  intro record same
  have time : (blank.merge record).lastUpdate = -1 := congrArg (·.lastUpdate) same
  exact absurd time (by decide)

end NetInventory.DeviceRecord
