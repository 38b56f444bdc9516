import NetInventory.Proofs.Store.Pruning

/-! Ages of records. Clocks and records tell whole seconds, and a period is cut to whole seconds
before it is compared with them. So a record can pass for old up to a second before its time, and so
does one that changed at the first time that can be told, whatever the clock says. Pruning leaves no
device that is older than the period, and takes those that pass for it too early.
-/

namespace NetInventory

/-- How long ago a record changed, in nanoseconds. -/
def DeviceRecord.age (now : Int64) (record : DeviceRecord) : Int :=
  (now.toInt - record.lastUpdate.toInt) * Time.secondNanos

namespace Condition

variable {now : Int64} {period : Int} {record : DeviceRecord}

-----------------------------------------------------------------------------------------
-- Whole seconds
-----------------------------------------------------------------------------------------

/-- A period that was cut to whole seconds may be longer than it seems by what was cut off. -/
theorem tdiv_le_iff (period seconds : Int)
    : period.tdiv Time.secondNanos ≤ seconds
      ↔ period ≤ seconds * Time.secondNanos
        ∨ 0 ≤ seconds ∧ period < seconds * Time.secondNanos + Time.secondNanos := by
  rw [Time.secondNanos]
  rcases Int.le_total 0 period with forward | backward
  · rw [Int.tdiv_eq_ediv_of_nonneg forward]
    omega
  · have cut : period.tdiv (1000000000 : Nat) = -(-period / (1000000000 : Nat)) := by
      rw [← Int.tdiv_eq_ediv_of_nonneg (Int.neg_nonneg_of_nonpos backward), Int.neg_tdiv,
        Int.neg_neg]
    rw [cut]
    omega

/-- A period back in time that was cut to whole seconds may be shorter than it seems. -/
theorem le_tdiv_iff (period seconds : Int)
    : seconds ≤ period.tdiv Time.secondNanos
      ↔ seconds * Time.secondNanos ≤ period
        ∨ seconds ≤ 0 ∧ seconds * Time.secondNanos < period + Time.secondNanos := by
  have mirrored := tdiv_le_iff (-period) (-seconds)
  rw [Int.neg_tdiv, Int.neg_le_neg_iff, Int.neg_mul] at mirrored
  rw [mirrored]
  omega

theorem toInt_clampTime (seconds : Int)
    : (clampTime seconds).toInt
      = max Int64.minValue.toInt (min seconds Int64.maxValue.toInt) := by
  rw [clampTime, Int64.toInt_ofInt_of_le]
  all_goals
    simp only [Int64.toInt_minValue, Int64.toInt_maxValue]
    omega

/-- Every time comes after the first one. -/
theorem le_clampTime_iff {time : Int64} {seconds : Int}
    : time ≤ clampTime seconds ↔ time = .minValue ∨ time.toInt ≤ seconds := by
  have first := time.minValue_le_toInt
  have last := time.toInt_le
  rw [Int64.le_iff_toInt_le, toInt_clampTime, ← Int64.toInt_inj]
  omega

/-- Every time comes before the last one. -/
theorem clampTime_le_iff {time : Int64} {seconds : Int}
    : clampTime seconds ≤ time ↔ time = .maxValue ∨ seconds ≤ time.toInt := by
  have first := time.minValue_le_toInt
  have last := time.toInt_le
  rw [Int64.le_iff_toInt_le, toInt_clampTime, ← Int64.toInt_inj]
  omega

-----------------------------------------------------------------------------------------
-- What is wrong about an age
-----------------------------------------------------------------------------------------

/-- The record is younger than the period and passes for old: it changed at the first time that can
be told, or it did not change in the future and the period is over in less than a second.
-/
def Premature (now : Int64) (period : Int) (record : DeviceRecord) : Prop :=
  record.age now < period
  ∧ (record.lastUpdate = .minValue
    ∨ 0 ≤ record.age now ∧ period < record.age now + Time.secondNanos)

/-- The record is older than the period and passes for recent: it changed at the last time that can
be told, or it did not change in the past and the period has been over for less than a second.
-/
def Lingering (now : Int64) (period : Int) (record : DeviceRecord) : Prop :=
  period < record.age now
  ∧ (record.lastUpdate = .maxValue
    ∨ record.age now ≤ 0 ∧ record.age now < period + Time.secondNanos)

instance : Decidable (Premature now period record) :=
  inferInstanceAs (Decidable (_ ∧ (_ ∨ _ ∧ _)))

theorem olderThan_iff
    : olderThan now period record = true
      ↔ period ≤ record.age now ∨ Premature now period record := by
  have cut
      : record.lastUpdate.toInt ≤ now.toInt - period.tdiv Time.secondNanos
        ↔ period ≤ record.age now
          ∨ 0 ≤ record.age now ∧ period < record.age now + Time.secondNanos := by
    have seconds := tdiv_le_iff period (now.toInt - record.lastUpdate.toInt)
    rw [DeviceRecord.age]
    rw [Time.secondNanos] at *
    omega
  rw [olderThan, updatedAtOrBefore, cutoff, decide_eq_true_iff, le_clampTime_iff, cut, Premature]
  by_cases due : period ≤ record.age now
  · simp [due]
  · simp [due, Int.not_le.mp due]

theorem updatedWithin_iff
    : updatedWithin now period record = true
      ↔ record.age now ≤ period ∨ Lingering now period record := by
  have cut
      : now.toInt - period.tdiv Time.secondNanos ≤ record.lastUpdate.toInt
        ↔ record.age now ≤ period
          ∨ record.age now ≤ 0 ∧ record.age now < period + Time.secondNanos := by
    have seconds := le_tdiv_iff period (now.toInt - record.lastUpdate.toInt)
    rw [DeviceRecord.age]
    rw [Time.secondNanos] at *
    omega
  rw [updatedWithin, updatedSince, cutoff, decide_eq_true_iff, clampTime_le_iff, cut, Lingering]
  by_cases recent : record.age now ≤ period
  · simp [recent]
  · simp [recent, Int.not_le.mp recent]

/-- By a period of whole seconds a record passes for old when it is, unless it changed at the first
time that can be told.
-/
theorem olderThan_of_seconds (whole : (Time.secondNanos : Int) ∣ period)
    (told : record.lastUpdate ≠ .minValue)
    : olderThan now period record = true ↔ period ≤ record.age now := by
  rw [olderThan_iff]
  refine or_iff_left fun premature => ?_
  obtain ⟨early, cause⟩ := premature
  obtain ⟨-, soon⟩ := cause.resolve_left told
  obtain ⟨seconds, rfl⟩ := whole
  rw [DeviceRecord.age, Time.secondNanos] at *
  omega

/-- By a period of whole seconds a record passes for recent when it is, unless it changed at the
last time that can be told.
-/
theorem updatedWithin_of_seconds (whole : (Time.secondNanos : Int) ∣ period)
    (told : record.lastUpdate ≠ .maxValue)
    : updatedWithin now period record = true ↔ record.age now ≤ period := by
  rw [updatedWithin_iff]
  refine or_iff_left fun lingering => ?_
  obtain ⟨late, cause⟩ := lingering
  obtain ⟨-, past⟩ := cause.resolve_left told
  obtain ⟨seconds, rfl⟩ := whole
  rw [DeviceRecord.age, Time.secondNanos] at *
  omega

end Condition

namespace Store

open Condition

/-- By the clock of the store both conditions tell the age of a record exactly, but for the records
that are premature or lingering. Pruning by age removes every device that is as old as the period,
and besides those that are premature, and leaves the others as they are.
-/
theorem prune_olderThan_exact_iff (store : Store) (period : Int)
    : let now := store.readClock.1
      let pruned := store.readClock.2.prune [olderThan now period]
      (∀ record,
        (olderThan now period record = true ↔ period ≤ record.age now)
        ↔ ¬ Premature now period record)
      ∧ (∀ record,
        (updatedWithin now period record = true ↔ record.age now ≤ period)
        ↔ ¬ Lingering now period record)
      ∧ pruned.1
        = (store.inventory.devices.values.filter fun stored =>
            period ≤ stored.record.age now ∨ Premature now period stored.record).map (·.record)
      ∧ (∀ key stored,
        pruned.2.inventory.devices.get? key = some stored
        ↔ store.inventory.devices.get? key = some stored
          ∧ stored.record.age now < period
          ∧ ¬ Premature now period stored.record) := by
  intro now pruned
  have fulfils (record : DeviceRecord)
      : [olderThan now period].all (· record)
        = decide (period ≤ record.age now ∨ Premature now period record) := by
    rw [List.all_cons, List.all_nil, Bool.and_true, Bool.eq_iff_iff, olderThan_iff,
      decide_eq_true_iff]
  refine ⟨fun record => ?older, fun record => ?within, ?removed, fun key stored => ?left⟩
  case older =>
    rw [olderThan_iff, or_iff_left_iff_imp]
    exact ⟨fun due early => Int.not_le.mpr early.1 (due early), fun due early => absurd early due⟩
  case within =>
    rw [updatedWithin_iff, or_iff_left_iff_imp]
    exact ⟨fun due late => Int.not_le.mpr late.1 (due late), fun due late => absurd late due⟩
  case removed =>
    have removed := store.inventory.prune_fst [olderThan now period]
    simp only [fulfils] at removed
    exact removed
  case left =>
    refine (store.inventory.get?_prune [olderThan now period]).trans ?_
    rw [fulfils, decide_eq_false_iff_not, not_or, Int.not_le]

/-- A device that changed a second ago is pruned for not having changed for a second and a half. -/
theorem prune_olderThan_early
    : let clock : Clock := ⟨fun taken => if taken = 0 then 1000 else 1001, 0⟩
      let store := ((standard clock).merge 0 (.withMac "aa:bb:cc:dd:ee:ff")).2
      let now := store.readClock.1
      let period : Int := Time.secondNanos + Time.secondNanos / 2
      ∃ record,
        (store.readClock.2.prune [olderThan now period]).1 = [record]
        ∧ record.age now = Time.secondNanos
        ∧ record.age now < period := by
  intro clock store now period
  refine ⟨{ DeviceRecord.withMac "aa:bb:cc:dd:ee:ff" with lastUpdate := 1000 }, ?_, ?_, ?_⟩
  all_goals decide +kernel

end Store

end NetInventory
