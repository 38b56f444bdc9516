import Mathlib.Algebra.GroupWithZero.Nat
import NetInventory.Traffic.Tracker

/-! Counted bytes as natural numbers, and the bins that count them. Counters stop at their greatest
value, so what bins hold is the sum of the increments that went into them as long as the whole log
fits into a counter.
-/

namespace NetInventory

inductive Direction where
  | rx
  | tx

/-- An amount that is counted at an instant. -/
structure Increment where
  instant : Int
  amount : Amount

namespace Direction

def bytes : Direction → Amount → Nat
  | rx, amount => amount.rx.toNat
  | tx, amount => amount.tx.toNat

/-- The bytes of all increments of a log. -/
def counted (direction : Direction) (log : List Increment) : Nat :=
  (log.map fun increment => direction.bytes increment.amount).sum

/-- The bytes of all bins. -/
def stored (direction : Direction) (bins : List Bin) : Nat :=
  (bins.map fun bin => direction.bytes bin.amount).sum

end Direction

/-- The increments that were made at most a period ago. -/
def Increment.recent (period now : Int) (log : List Increment) : List Increment :=
  log.filter fun increment => now - increment.instant ≤ period

/-- An amount lies between what was counted up to an interval short of a period and what was counted
in the whole period, in both directions.
-/
def Amount.Accurate (amount : Amount) (interval period now : Int) (log : List Increment) : Prop :=
  ∀ direction : Direction,
    direction.counted (Increment.recent (period - interval) now log) ≤ direction.bytes amount
    ∧ direction.bytes amount ≤ direction.counted (Increment.recent period now log)

theorem toNat_saturatingAdd (left right : UInt64)
    : (saturatingAdd left right).toNat = min (left.toNat + right.toNat) (UInt64.size - 1) := by
  rw [saturatingAdd, UInt64.toNat_ofNat_of_lt']
  exact Nat.lt_of_le_of_lt (Nat.min_le_right _ _) (by decide)

namespace Direction

@[simp] theorem bytes_zero (direction : Direction) : direction.bytes .zero = 0 := by
  cases direction <;> rfl

theorem bytes_add (direction : Direction) (left right : Amount)
    : direction.bytes (left + right)
      = min (direction.bytes left + direction.bytes right) (UInt64.size - 1) := by
  cases direction <;> exact toNat_saturatingAdd _ _

theorem bytes_lt (direction : Direction) (amount : Amount)
    : direction.bytes amount < UInt64.size := by
  cases direction <;> exact UInt64.toNat_lt _

theorem counted_append (direction : Direction) (earlier later : List Increment)
    : direction.counted (earlier ++ later)
      = direction.counted earlier + direction.counted later := by
  simp [counted]

theorem stored_reverse (direction : Direction) (bins : List Bin)
    : direction.stored bins.reverse = direction.stored bins := by
  simp [stored]

/-- The sum of the bins is what they hold, up to the greatest value of a counter. Witness:
induction on the bins, with the amount that was summed before them.
-/
theorem bytes_sum (direction : Direction) (bins : List Bin)
    : direction.bytes (Bin.sum bins) = min (direction.stored bins) (UInt64.size - 1) := by
  have onward (amount : Amount)
      : direction.bytes (bins.foldl (fun amount bin => amount + bin.amount) amount)
        = min (direction.bytes amount + direction.stored bins) (UInt64.size - 1) := by
    induction bins generalizing amount with
    | nil =>
        have bound := direction.bytes_lt amount
        simp only [List.foldl_nil, stored, List.map_nil, List.sum_nil]
        omega
    | cons bin rest ih =>
        rw [List.foldl_cons, ih, bytes_add]
        simp only [stored, List.map_cons, List.sum_cons]
        omega
  rw [Bin.sum, onward, bytes_zero, Nat.zero_add]

/-- The increments of a part of the log that were made within a period count at most as much as
the part.
-/
theorem counted_recent_le (direction : Direction) (period now : Int) (log : List Increment)
    : direction.counted (Increment.recent period now log) ≤ direction.counted log := by
  induction log with
  | nil => exact Nat.le_refl _
  | cons increment rest ih =>
      simp only [Increment.recent, counted, List.filter_cons] at ih ⊢
      split
      · simp only [List.map_cons, List.sum_cons]
        omega
      · simp only [List.map_cons, List.sum_cons]
        omega

/-- The later part of a log counts as much as the recent increments if it holds all of those from
a shorter period and none from before a longer one.
-/
theorem counted_bounds (direction : Direction) {shorter longer now : Int}
    {old recent : List Increment}
    (aged : ∀ increment ∈ old, shorter < now - increment.instant)
    (young : ∀ increment ∈ recent, now - increment.instant ≤ longer)
    : direction.counted (Increment.recent shorter now (old ++ recent)) ≤ direction.counted recent
      ∧ direction.counted recent
        ≤ direction.counted (Increment.recent longer now (old ++ recent)) := by
  have noneOld : Increment.recent shorter now old = [] := by
    refine List.filter_eq_nil_iff.mpr fun increment member => ?_
    exact fun young => Int.not_le.mpr (aged increment member) (of_decide_eq_true young)
  have allRecent : Increment.recent longer now recent = recent := by
    refine List.filter_eq_self.mpr fun increment member => ?_
    exact decide_eq_true (young increment member)
  constructor
  · have shape : Increment.recent shorter now (old ++ recent)
        = Increment.recent shorter now old ++ Increment.recent shorter now recent :=
      List.filter_append _ _
    rw [shape, noneOld, List.nil_append]
    exact direction.counted_recent_le shorter now recent
  · have shape : Increment.recent longer now (old ++ recent)
        = Increment.recent longer now old ++ Increment.recent longer now recent :=
      List.filter_append _ _
    rw [shape, allRecent, counted_append]
    exact Nat.le_add_left _ _

end Direction

-----------------------------------------------------------------------------------------
-- Bins and the increments that went into them
-----------------------------------------------------------------------------------------

/-- A bin counts the increments of a log, all of which were made while it was open. -/
structure Bin.Holds (interval : Int) (bin : Bin) (log : List Increment) : Prop where
  counted : ∀ direction : Direction, direction.bytes bin.amount = direction.counted log
  made
    : ∀ increment ∈ log,
        bin.start ≤ increment.instant ∧ increment.instant ≤ bin.start + interval

/-- The increments of a log are distributed over bins in their order. -/
inductive Filed (interval : Int) : List Bin → List Increment → Prop
  | nil : Filed interval [] []
  | cons {bin bins log later}
    (holds : bin.Holds interval log)
    (rest : Filed interval bins later)
    : Filed interval (bin :: bins) (log ++ later)

theorem Bin.holds_opening (interval now : Int) : (opening now).Holds interval [] :=
  ⟨fun direction => direction.bytes_zero, by simp⟩

namespace Filed

variable {interval : Int} {bin : Bin} {bins front back : List Bin}
  {log earlier later : List Increment}

theorem singleton (holds : bin.Holds interval log) : Filed interval [bin] log := by
  have filed := Filed.cons holds .nil
  rwa [List.append_nil] at filed

theorem append (first : Filed interval front earlier) (second : Filed interval back later)
    : Filed interval (front ++ back) (earlier ++ later) := by
  induction first with
  | nil => exact second
  | cons holds _ ih =>
      rw [List.append_assoc]
      exact .cons holds ih

/-- The increments of consecutive bins are consecutive, by induction on the first bins. -/
theorem split (filed : Filed interval (front ++ back) log)
    : ∃ earlier later,
        log = earlier ++ later ∧ Filed interval front earlier ∧ Filed interval back later := by
  induction front generalizing log with
  | nil => exact ⟨[], log, rfl, .nil, filed⟩
  | cons bin rest ih =>
      cases filed with
      | @cons _ _ own _ holds filedRest =>
          obtain ⟨earlier, later, rfl, first, second⟩ := ih filedRest
          exact ⟨own ++ earlier, later, (List.append_assoc _ _ _).symm, .cons holds first, second⟩

theorem holds_of_singleton (filed : Filed interval [bin] log) : bin.Holds interval log := by
  cases filed with
  | cons holds rest =>
      cases rest with
      | nil => rwa [List.append_nil]

theorem stored_eq (filed : Filed interval bins log) (direction : Direction)
    : direction.stored bins = direction.counted log := by
  induction filed with
  | nil => rfl
  | cons holds _ ih =>
      rw [Direction.counted_append, ← ih, ← holds.counted]
      simp [Direction.stored]

/-- Every increment is in one of the bins. -/
theorem exists_bin (filed : Filed interval bins log) {increment : Increment}
    (member : increment ∈ log)
    : ∃ bin ∈ bins, bin.start ≤ increment.instant ∧ increment.instant ≤ bin.start + interval := by
  induction filed with
  | nil => simp at member
  | @cons bin bins _ _ holds _ ih =>
      rcases List.mem_append.mp member with here | there
      · exact ⟨bin, List.mem_cons_self, holds.made increment here⟩
      · obtain ⟨other, among, made⟩ := ih there
        exact ⟨other, List.mem_cons_of_mem bin among, made⟩

end Filed

/-- Bins that began one after the other, none of them later than now. -/
structure Ordered (now : Int) (bins : List Bin) : Prop where
  sorted : bins.Pairwise fun earlier later => earlier.start ≤ later.start
  begun : ∀ bin ∈ bins, bin.start ≤ now

namespace Ordered

variable {now : Int} {bins part front : List Bin} {old new : Bin}

theorem opening (now : Int) : Ordered now [.opening now] :=
  ⟨List.pairwise_singleton _ _, fun _ member => List.mem_singleton.mp member ▸ Int.le_refl now⟩

theorem sublist (ordered : Ordered now bins) (within : part.Sublist bins) : Ordered now part :=
  ⟨ordered.sorted.sublist within, fun bin member => ordered.begun bin (within.subset member)⟩

/-- Another bin that began at the same time may stand at the end. -/
theorem replace_last (ordered : Ordered now (front ++ [old])) (same : new.start = old.start)
    : Ordered now (front ++ [new]) := by
  obtain ⟨sorted, begun⟩ := ordered
  obtain ⟨sortedFront, -, before⟩ := List.pairwise_append.mp sorted
  refine ⟨List.pairwise_append.mpr ⟨sortedFront, List.pairwise_singleton _ _, ?_⟩, ?_⟩
  · intro bin member last final
    obtain rfl := List.mem_singleton.mp final
    exact same ▸ before bin member old List.mem_cons_self
  · intro bin member
    rcases List.mem_append.mp member with earlier | final
    · exact begun bin (List.mem_append_left _ earlier)
    · obtain rfl := List.mem_singleton.mp final
      exact same ▸ begun old (List.mem_append_right _ List.mem_cons_self)

/-- A bin that begins now comes last. -/
theorem concat (ordered : Ordered now bins) : Ordered now (bins ++ [.opening now]) := by
  refine ⟨List.pairwise_append.mpr ⟨ordered.sorted, List.pairwise_singleton _ _, ?_⟩, ?_⟩
  · intro bin member last final
    obtain rfl := List.mem_singleton.mp final
    exact ordered.begun bin member
  · intro bin member
    rcases List.mem_append.mp member with earlier | final
    · exact ordered.begun bin earlier
    · exact (opening now).begun bin final

end Ordered

end NetInventory
