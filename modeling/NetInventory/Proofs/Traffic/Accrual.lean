import NetInventory.Proofs.Traffic.Retention

/-! Several trackers together. Trackers begin and count amounts one at a time; as long as none of
them drops a bin or fills a counter, together they hold what was counted.
-/

namespace NetInventory

namespace Direction

/-- The bytes of all trackers. -/
def totals (direction : Direction) (trackers : List Tracker) : Nat :=
  (trackers.map fun tracker => direction.bytes tracker.total).sum

@[simp] theorem totals_cons (direction : Direction) (tracker : Tracker) (rest : List Tracker)
    : direction.totals (tracker :: rest)
      = direction.bytes tracker.total + direction.totals rest := by
  simp [totals]

theorem totals_perm (direction : Direction) {left right : List Tracker} (same : left.Perm right)
    : direction.totals left = direction.totals right :=
  (same.map _).sum_nat

end Direction

/-- How trackers become others without loss, up to their order: the instants at which new ones
began, and the amounts that were counted, each by one of them.
-/
inductive Accrues (reach : Int)
    : List Tracker → List Int → List Increment → List Tracker → Prop
  | done {trackers} : Accrues reach trackers [] [] trackers
  | reorder {before middle begun log after}
    (same : before.Perm middle)
    (later : Accrues reach middle begun log after)
    : Accrues reach before begun log after
  | begin {binInterval instant before begun log after}
    (later : Accrues reach (.start binInterval reach instant :: before) begun log after)
    : Accrues reach before (instant :: begun) log after
  | count {tracker rest increment begun log after}
    (later
      : Accrues reach (tracker.add increment.amount increment.instant :: rest) begun log after)
    : Accrues reach (tracker :: rest) begun (increment :: log) after

theorem Accrues.trans {reach : Int} {before middle after : List Tracker} {begun more : List Int}
    {log next : List Increment} (first : Accrues reach before begun log middle)
    (second : Accrues reach middle more next after)
    : Accrues reach before (begun ++ more) (log ++ next) after := by
  induction first with
  | done => exact second
  | reorder same _ ih => exact .reorder same (ih second)
  | begin _ ih => exact .begin (ih second)
  | count _ ih => exact .count (ih second)

/-- A tracker of a store with the given reach that began at one of the instants, and has not dropped
a bin since.
-/
structure Tracker.Begun (reach : Int) (instants : List Int) (tracker : Tracker) : Prop where
  reach : tracker.reach = reach.toNat
  start : tracker.oldest.start ∈ instants

theorem Tracker.Begun.young {reach now : Int} {instants : List Int} {tracker : Tracker}
    (begun : tracker.Begun reach instants)
    (near : ∀ instant ∈ instants, now - instant ≤ reach.toNat)
    : tracker.oldest.age now ≤ tracker.reach := by
  rw [begun.reach]
  exact near _ begun.start

theorem Tracker.Begun.add {reach now : Int} {instants : List Int} {tracker : Tracker}
    (begun : tracker.Begun reach instants)
    (near : ∀ instant ∈ instants, now - instant ≤ reach.toNat) (amount : Amount)
    : (tracker.add amount now).Begun reach instants where
  reach := (tracker.reach_add amount now).trans begun.reach
  start := (Tracker.oldest_add (begun.young near) amount).symm ▸ begun.start

/-- If no amount is counted later than the reach after any of the instants at which trackers began,
what the trackers hold grows by what is counted, unless a counter is full at the end; for a counter
that was full would be so at the end. Witness: induction on the changes.
-/
theorem Accrues.conserves {reach : Int} {before after : List Tracker} {begun all : List Int}
    {log : List Increment} {direction : Direction} (accrues : Accrues reach before begun log after)
    (known : ∀ tracker ∈ before, tracker.Begun reach all) (listed : begun ⊆ all)
    (near : ∀ increment ∈ log, ∀ instant ∈ all, increment.instant - instant ≤ reach.toNat)
    (fits : ∀ tracker ∈ after, direction.bytes tracker.total < UInt64.size - 1)
    : (∀ tracker ∈ before, direction.bytes tracker.total < UInt64.size - 1)
      ∧ direction.totals after = direction.totals before + direction.counted log := by
  induction accrues with
  | done => exact ⟨fits, rfl⟩
  | reorder same _ ih =>
      obtain ⟨room, sum⟩ :=
        ih (fun tracker member => known tracker (same.mem_iff.mpr member)) listed near fits
      exact ⟨fun tracker member => room tracker (same.mem_iff.mp member),
        by rw [sum, direction.totals_perm same]⟩
  | @begin binInterval instant _ _ _ _ _ ih =>
      obtain ⟨first, rest⟩ := List.cons_subset.mp listed
      have fresh : (Tracker.start binInterval reach instant).Begun reach all := ⟨rfl, first⟩
      obtain ⟨room, sum⟩ := ih (List.forall_mem_cons.mpr ⟨fresh, known⟩) rest near fits
      refine ⟨(List.forall_mem_cons.mp room).2, ?_⟩
      rw [sum, direction.totals_cons, Tracker.total_start, direction.bytes_zero, Nat.zero_add]
  | @count tracker _ increment _ _ _ _ ih =>
      obtain ⟨own, others⟩ := List.forall_mem_cons.mp known
      obtain ⟨now, onward⟩ := List.forall_mem_cons.mp near
      have grown : direction.bytes (tracker.add increment.amount increment.instant).total
          = min (direction.bytes tracker.total + direction.bytes increment.amount)
              (UInt64.size - 1) :=
        Tracker.bytes_total_add (own.young now) increment.amount direction
      obtain ⟨room, sum⟩ :=
        ih (List.forall_mem_cons.mpr ⟨own.add now increment.amount, others⟩) listed onward fits
      obtain ⟨first, rest⟩ := List.forall_mem_cons.mp room
      refine ⟨List.forall_mem_cons.mpr ⟨by omega, rest⟩, ?_⟩
      simp only [Direction.totals_cons, Direction.counted, List.map_cons, List.sum_cons] at sum ⊢
      omega

end NetInventory
