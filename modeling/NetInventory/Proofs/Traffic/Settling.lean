import Mathlib.Data.List.TakeWhile
import NetInventory.Traffic.Tracker

/-! How a tracker makes its bins ready for an amount. Looking at the bins drops those beyond the
reach or rolls over to a new one, and dropping is never in vain; so the looks end with a newest bin
that takes the amount, and whatever dropping and rolling over keep is kept.
-/

namespace NetInventory

namespace Tracker

variable {tracker next : Tracker} {now : Int}

theorem bins_eq_cons (tracker : Tracker) : ∃ rest, tracker.bins = tracker.oldest :: rest := by
  unfold bins oldest
  cases tracker.older with
  | nil => exact ⟨[], rfl⟩
  | cons first rest => exact ⟨rest ++ [tracker.newest], rfl⟩

/-- Bins that are too old are dropped, and if none is left an empty one begins. -/
theorem bins_restrict (tracker : Tracker) (period now : Int)
    : (tracker.restrict period now).bins
      = if tracker.bins.dropWhile (fun bin => period < bin.age now) = [] then [.opening now]
        else tracker.bins.dropWhile (fun bin => period < bin.age now) := by
  unfold restrict bins
  dsimp only
  rw [List.dropWhile_append]
  cases tracker.older.dropWhile (fun bin => period < bin.age now) with
  | nil => by_cases old : period < tracker.newest.age now <;> simp [old]
  | cons first rest => simp

theorem bins_roll (tracker : Tracker) (now : Int)
    : (tracker.roll now).bins
      = (tracker.older ++ [{ tracker.newest with stop := some now }]) ++ [.opening now] := by
  simp [roll, bins]

@[simp] theorem reach_restrict (tracker : Tracker) (period now : Int)
    : (tracker.restrict period now).reach = tracker.reach := by
  unfold restrict
  dsimp only
  split <;> rfl

@[simp] theorem binInterval_restrict (tracker : Tracker) (period now : Int)
    : (tracker.restrict period now).binInterval = tracker.binInterval := by
  unfold restrict
  dsimp only
  split <;> rfl

/-- Once the bins that are too old are dropped, the oldest bin is not too old. -/
theorem age_oldest_restrict (tracker : Tracker) {period : Int} (nonneg : 0 ≤ period) (now : Int)
    : (tracker.restrict period now).oldest.age now ≤ period := by
  obtain ⟨rest, shape⟩ := (tracker.restrict period now).bins_eq_cons
  rw [bins_restrict] at shape
  split at shape
  next =>
    obtain ⟨first, -⟩ := List.cons.inj shape
    rw [← first, age_opening]
    exact nonneg
  next =>
    have fails := List.head?_dropWhile_not (fun bin => decide (period < bin.age now)) tracker.bins
    rw [shape] at fails
    simpa using fails

/-- What a look at the bins finds to do. Dropping the bins beyond the reach is never in vain. -/
theorem turn_eq (tracker : Tracker) (now : Int)
    : tracker.turn now
      = if tracker.reach < tracker.oldest.age now then
          .again (tracker.restrict tracker.reach now)
        else if tracker.binInterval < tracker.newest.age now then
          .again (tracker.roll now)
        else
          .ready := by
  unfold turn
  split
  next =>
    have young := tracker.age_oldest_restrict (Int.natCast_nonneg tracker.reach) now
    exact if_neg (Int.not_lt.mpr young)
  next => rfl

/-- The newest bin takes an amount: no bin is beyond the reach, and the newest has not been open
for longer than the bin interval.
-/
def Ready (tracker : Tracker) (now : Int) : Prop :=
  tracker.oldest.age now ≤ tracker.reach ∧ tracker.newest.age now ≤ tracker.binInterval

theorem turn_eq_ready_iff : tracker.turn now = .ready ↔ tracker.Ready now := by
  rw [turn_eq, Ready, ← Int.not_lt, ← Int.not_lt]
  split_ifs with old due
  · exact ⟨nofun, fun ready => absurd old ready.1⟩
  · exact ⟨nofun, fun ready => absurd due ready.2⟩
  · exact ⟨fun _ => ⟨old, due⟩, fun _ => rfl⟩

/-- A look that changes the bins drops those beyond the reach, or rolls over to a new bin when there
are none and the newest has been open for too long.
-/
theorem eq_of_turn_again (turned : tracker.turn now = .again next)
    : next = tracker.restrict tracker.reach now
      ∨ (tracker.oldest.age now ≤ tracker.reach
        ∧ tracker.binInterval < tracker.newest.age now
        ∧ next = tracker.roll now) := by
  rw [turn_eq] at turned
  split at turned
  next =>
    injection turned with same
    exact .inl same.symm
  next young =>
    split at turned
    next due =>
      injection turned with same
      exact .inr ⟨Int.not_lt.mp young, due, same.symm⟩
    next => simp at turned

theorem turn_ne_futile : tracker.turn now ≠ .futile next := by
  rw [turn_eq]
  split_ifs <;> simp

theorem settle_of_ready (turned : tracker.turn now = .ready) : tracker.settle now = tracker := by
  rw [settle]
  split
  next => rfl
  next other => cases turned.symm.trans other
  next other => cases turned.symm.trans other

theorem settle_of_again (turned : tracker.turn now = .again next)
    : tracker.settle now = next.settle now := by
  rw [settle]
  split
  next other => cases turned.symm.trans other
  next other =>
    injection turned.symm.trans other with same
    rw [same]
  next other => cases turned.symm.trans other

/-- Settling makes a tracker ready, by induction on the looks at its bins. -/
theorem ready_settle (tracker : Tracker) (now : Int) : (tracker.settle now).Ready now := by
  fun_induction settle tracker now with
  | case1 tracker turned => exact turn_eq_ready_iff.mp turned
  | case2 tracker next turned ih => exact ih
  | case3 tracker next turned => exact absurd turned turn_ne_futile

/-- Settling keeps what dropping and rolling over keep, by induction on the looks. -/
theorem settle_induction {P : Tracker → Prop} (tracker : Tracker) (now : Int)
    (restrict : ∀ tracker, P tracker → P (tracker.restrict tracker.reach now))
    (roll
      : ∀ tracker : Tracker,
          tracker.oldest.age now ≤ tracker.reach
          → tracker.binInterval < tracker.newest.age now
          → P tracker
          → P (tracker.roll now))
    (start : P tracker)
    : P (tracker.settle now) := by
  fun_induction settle tracker now with
  | case1 tracker turned => exact start
  | case2 tracker next turned ih =>
      rcases eq_of_turn_again turned with rfl | ⟨young, open_, rfl⟩
      · exact ih (restrict tracker start)
      · exact ih (roll tracker young open_ start)
  | case3 tracker next turned => exact absurd turned turn_ne_futile

theorem limits_settle (tracker : Tracker) (now : Int)
    : (tracker.settle now).reach = tracker.reach
      ∧ (tracker.settle now).binInterval = tracker.binInterval := by
  refine settle_induction
    (P := fun next => next.reach = tracker.reach ∧ next.binInterval = tracker.binInterval)
    tracker now ?restrict ?roll ⟨rfl, rfl⟩
  case restrict =>
    intro next same
    rwa [reach_restrict, binInterval_restrict]
  case roll => exact fun next _ _ same => same

end Tracker

end NetInventory
