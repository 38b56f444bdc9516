import Mathlib.Data.List.Basic
import Mathlib.Order.MinMax
import NetInventory.Proofs.Traffic.Counting
import NetInventory.Proofs.Traffic.Settling

/-! Dropping old bins and asking for the traffic of a period. Both look for the place where the bins
that are too old end, the one from the front and the other from the back. Bins in order have one
such place, so what is kept is what was asked for, and the shorter of two periods decides.
-/

namespace NetInventory

/-- Amounts that count the same bytes in both directions are equal. -/
theorem Amount.ext_bytes {left right : Amount}
    (same : ∀ direction : Direction, direction.bytes left = direction.bytes right)
    : left = right := by
  obtain ⟨leftRx, leftTx⟩ := left
  obtain ⟨rightRx, rightTx⟩ := right
  obtain rfl : leftRx = rightRx := UInt64.toNat_inj.mp (same .rx)
  obtain rfl : leftTx = rightTx := UInt64.toNat_inj.mp (same .tx)
  rfl

/-- Counters that stop at their greatest value stop there in either order. -/
theorem Bin.sum_reverse (bins : List Bin) : Bin.sum bins.reverse = Bin.sum bins :=
  Amount.ext_bytes fun direction => by
    rw [direction.bytes_sum, direction.bytes_sum, direction.stored_reverse]

namespace Tracker

variable {tracker : Tracker}

/-- The bins that began within a period. -/
def recent (tracker : Tracker) (period now : Int) : List Bin :=
  tracker.bins.filter fun bin => bin.age now ≤ period

theorem mem_recent {bin : Bin} {period now : Int}
    : bin ∈ tracker.recent period now ↔ bin ∈ tracker.bins ∧ bin.age now ≤ period := by
  simp [recent]

/-- A tracker is its bins and its limits. -/
theorem eq_of_bins {left right : Tracker} (bins : left.bins = right.bins)
    (binInterval : left.binInterval = right.binInterval) (reach : left.reach = right.reach)
    : left = right := by
  obtain ⟨older, newest⟩ := List.append_inj' bins rfl
  cases left
  cases right
  congr
  exact (List.cons.inj newest).1

/-- The bins that are recent by one period and by another one are those that are recent by the
shorter one.
-/
theorem filter_recent (tracker : Tracker) (first second now : Int)
    : (tracker.recent first now).filter (fun bin => bin.age now ≤ second)
      = tracker.recent (min first second) now := by
  rw [recent, List.filter_filter]
  refine List.filter_congr fun bin _ => ?_
  rw [← Bool.decide_and, decide_eq_decide, le_min_iff, and_comm]

-----------------------------------------------------------------------------------------
-- Bins in order
-----------------------------------------------------------------------------------------

/-- The bins began one after the other. -/
def Sorted (tracker : Tracker) : Prop :=
  tracker.bins.Pairwise fun earlier later => earlier.start ≤ later.start

theorem Sorted.oldest_le (sorted : tracker.Sorted) {bin : Bin} (member : bin ∈ tracker.bins)
    : tracker.oldest.start ≤ bin.start := by
  obtain ⟨rest, shape⟩ := tracker.bins_eq_cons
  rw [Sorted, shape] at sorted
  rw [shape] at member
  rcases List.mem_cons.mp member with rfl | later
  · exact Int.le_refl _
  · exact (List.pairwise_cons.mp sorted).1 bin later

/-- Behind the bins that are too old stand the recent ones, by induction on the bins: behind a
recent one all are recent.
-/
theorem Sorted.exists_old (sorted : tracker.Sorted) (period now : Int)
    : ∃ old,
        tracker.bins = old ++ tracker.recent period now
        ∧ ∀ bin ∈ old, period < bin.age now := by
  unfold Sorted at sorted
  unfold recent
  generalize tracker.bins = bins at sorted ⊢
  induction bins with
  | nil => exact ⟨[], rfl, nofun⟩
  | cons first rest ih =>
      obtain ⟨after, sortedRest⟩ := List.pairwise_cons.mp sorted
      by_cases young : first.age now ≤ period
      · have allYoung (bin : Bin) (member : bin ∈ first :: rest) : bin.age now ≤ period := by
          rcases List.mem_cons.mp member with rfl | later
          · exact young
          · have order := after bin later
            unfold Bin.age at young ⊢
            omega
        have kept : (first :: rest).filter (fun bin => bin.age now ≤ period) = first :: rest :=
          List.filter_eq_self.mpr fun bin member => decide_eq_true (allYoung bin member)
        exact ⟨[], kept.symm, nofun⟩
      · obtain ⟨old, shape, tooOld⟩ := ih sortedRest
        refine ⟨first :: old, ?_, List.forall_mem_cons.mpr ⟨Int.not_le.mp young, tooOld⟩⟩
        rw [List.filter_cons_of_neg (by simpa using young), List.cons_append, ← shape]

/-- Dropping keeps the recent bins, as they are and in their order; if there are none, an empty bin
begins.
-/
theorem Sorted.bins_restrict (sorted : tracker.Sorted) (period now : Int)
    : (tracker.restrict period now).bins
      = if tracker.recent period now = [] then [.opening now]
        else tracker.recent period now := by
  obtain ⟨old, shape, tooOld⟩ := sorted.exists_old period now
  have kept
      : tracker.bins.dropWhile (fun bin => period < bin.age now)
        = tracker.recent period now := by
    rw [shape, List.dropWhile_append_of_pos (by simpa using tooOld), List.dropWhile_eq_self_iff]
    intro nonempty
    have first := (mem_recent.mp (List.getElem_mem nonempty)).2
    simpa using first
  rw [Tracker.bins_restrict, kept]

/-- A question about a period is answered by the sum of the recent bins. -/
theorem Sorted.within_eq (sorted : tracker.Sorted) (period now : Int)
    : tracker.within period now = Bin.sum (tracker.recent period now) := by
  obtain ⟨old, shape, tooOld⟩ := sorted.exists_old period now
  have asked
      : tracker.bins.reverse.takeWhile (fun bin => bin.age now ≤ period)
        = (tracker.recent period now).reverse := by
    have young (bin : Bin) (member : bin ∈ (tracker.recent period now).reverse)
        : decide (bin.age now ≤ period) = true :=
      decide_eq_true (mem_recent.mp (List.mem_reverse.mp member)).2
    have stops : old.reverse.takeWhile (fun bin => bin.age now ≤ period) = [] := by
      rw [List.takeWhile_eq_nil_iff]
      intro nonempty
      have last := tooOld _ (List.mem_reverse.mp (List.getElem_mem nonempty))
      simpa using last
    rw [shape, List.reverse_append, List.takeWhile_append_of_pos young, stops, List.append_nil]
  rw [within, asked, Bin.sum_reverse]

/-- What is left after dropping is what a question about the period would have been told. -/
theorem Sorted.total_restrict (sorted : tracker.Sorted) (period now : Int)
    : (tracker.restrict period now).total = tracker.within period now := by
  rw [total, sorted.bins_restrict, sorted.within_eq]
  split
  next none =>
    rw [none]
    rfl
  next => rfl

theorem Sorted.restrict (sorted : tracker.Sorted) (period now : Int)
    : (tracker.restrict period now).Sorted := by
  rw [Sorted, Tracker.bins_restrict]
  split
  next => exact List.pairwise_singleton _ _
  next => exact sorted.sublist (List.dropWhile_sublist _)

/-- Dropping twice is dropping by the shorter period. If the first time leaves an empty bin, that
bin begins again if it is too old for the second one.
-/
theorem Sorted.restrict_restrict (sorted : tracker.Sorted) (first second now : Int)
    : (tracker.restrict first now).restrict second now
      = tracker.restrict (min first second) now := by
  refine eq_of_bins ?bins (by simp) (by simp)
  case bins =>
    rw [(sorted.restrict first now).bins_restrict, sorted.bins_restrict, recent,
      sorted.bins_restrict, ← tracker.filter_recent]
    by_cases none : tracker.recent first now = []
    · simp only [none, if_true, List.filter_nil, List.filter_singleton]
      by_cases young : (Bin.opening now).age now ≤ second <;> simp [young]
    · simp only [none, if_false]

end Tracker

end NetInventory
