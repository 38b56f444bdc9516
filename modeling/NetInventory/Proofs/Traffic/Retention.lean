import NetInventory.Proofs.Traffic.Counting
import NetInventory.Proofs.Traffic.Settling

/-! A tracker whose history is short. While the oldest bin is not beyond the reach nothing is
dropped, so the oldest bin tells when the tracker began and the bins hold all that was counted.
-/

namespace NetInventory.Tracker

variable {tracker : Tracker} {now : Int}

@[simp] theorem total_start (binInterval reach now : Int)
    : (start binInterval reach now).total = .zero :=
  rfl

@[simp] theorem oldest_roll (tracker : Tracker) (now : Int)
    : (tracker.roll now).oldest.start = tracker.oldest.start := by
  unfold roll oldest
  cases tracker.older <;> rfl

/-- Dropping leaves a tracker as it is if its oldest bin is not too old. -/
theorem restrict_of_young {period : Int} (young : tracker.oldest.age now ≤ period)
    : tracker.restrict period now = tracker := by
  obtain ⟨older, newest, binInterval, reach⟩ := tracker
  cases older with
  | nil =>
      have stays : ¬ period < newest.age now := Int.not_lt.mpr young
      simp [restrict, stays]
  | cons first rest =>
      have stays : ¬ period < first.age now := Int.not_lt.mpr young
      simp [restrict, stays]

/-- Rolling over closes a bin and begins an empty one, so the bins hold what they held. -/
theorem stored_roll (tracker : Tracker) (now : Int) (direction : Direction)
    : direction.stored (tracker.roll now).bins = direction.stored tracker.bins := by
  rw [bins_roll, bins]
  simp [Direction.stored, Bin.opening]

/-- Settling a tracker whose oldest bin is within the reach keeps that bin and all that is stored.
Witness: no look finds anything to drop.
-/
theorem retained_settle (young : tracker.oldest.age now ≤ tracker.reach)
    : (tracker.settle now).oldest.start = tracker.oldest.start
      ∧ ∀ direction : Direction,
        direction.stored (tracker.settle now).bins = direction.stored tracker.bins := by
  have kept : (tracker.settle now).reach = tracker.reach
      ∧ (tracker.settle now).oldest.start = tracker.oldest.start
      ∧ ∀ direction : Direction,
        direction.stored (tracker.settle now).bins = direction.stored tracker.bins := by
    refine settle_induction
      (P := fun next =>
        next.reach = tracker.reach
        ∧ next.oldest.start = tracker.oldest.start
        ∧ ∀ direction : Direction,
          direction.stored next.bins = direction.stored tracker.bins)
      tracker now ?restrict ?roll ⟨rfl, rfl, fun _ => rfl⟩
    case restrict =>
      rintro next ⟨reach, start, stored⟩
      have stillYoung : next.oldest.age now ≤ next.reach := by
        rwa [Bin.age, start, reach]
      rw [restrict_of_young stillYoung]
      exact ⟨reach, start, stored⟩
    case roll =>
      rintro next _ _ ⟨reach, start, stored⟩
      exact ⟨reach, (next.oldest_roll now).trans start,
        fun direction => (next.stored_roll now direction).trans (stored direction)⟩
  exact kept.2

@[simp] theorem reach_add (tracker : Tracker) (amount : Amount) (now : Int)
    : (tracker.add amount now).reach = tracker.reach :=
  (tracker.limits_settle now).1

/-- A tracker that drops nothing keeps the instant at which it began. -/
theorem oldest_add (young : tracker.oldest.age now ≤ tracker.reach) (amount : Amount)
    : (tracker.add amount now).oldest.start = tracker.oldest.start := by
  rw [← (retained_settle young).1]
  unfold add oldest
  dsimp only
  cases (tracker.settle now).older <;> rfl

/-- A tracker that drops nothing counts an amount in full, up to the greatest value of a counter. -/
theorem bytes_total_add (young : tracker.oldest.age now ≤ tracker.reach) (amount : Amount)
    (direction : Direction)
    : direction.bytes (tracker.add amount now).total
      = min (direction.bytes tracker.total + direction.bytes amount) (UInt64.size - 1) := by
  have stored := (retained_settle young).2 direction
  simp only [total, Direction.bytes_sum, ← stored]
  simp only [add, bins, Direction.stored, List.map_append, List.map_cons, List.map_nil,
    List.sum_append, List.sum_cons, List.sum_nil, Direction.bytes_add]
  omega

end NetInventory.Tracker
