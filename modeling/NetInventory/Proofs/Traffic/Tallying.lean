import NetInventory.Proofs.Traffic.Retention
import NetInventory.Proofs.Traffic.Spacing

/-! What an amount does to the bins, in one stroke. Three looks are enough before it goes in: the
first may drop bins, the second may roll over to a new one, and the third finds nothing to do. So
what comes out can be said without them.
-/

namespace NetInventory

namespace Amount

theorem zero_add (amount : Amount) : .zero + amount = amount :=
  Amount.ext_bytes fun direction => by
    have bound := direction.bytes_lt amount
    rw [direction.bytes_add, direction.bytes_zero]
    omega

end Amount

namespace Bin

/-- The bins with an amount that comes in now, given those within the reach. If there is none, a
fresh bin holds the amount. If the newest one has been open for longer than the interval, it is
closed and a fresh one behind it holds the amount. Otherwise the newest one takes it in, and its
counters stop at their greatest value.
-/
def tally (interval : Int) (amount : Amount) (now : Int) (kept : List Bin) : List Bin :=
  match kept.getLast? with
  | none => [⟨now, none, amount⟩]
  | some newest =>
    if interval < newest.age now then
      kept.dropLast ++ [{ newest with stop := some now }, ⟨now, none, amount⟩]
    else
      kept.dropLast ++ [{ newest with amount := newest.amount + amount }]

theorem tally_concat (interval : Int) (amount : Amount) (now : Int) (older : List Bin)
    (newest : Bin)
    : tally interval amount now (older ++ [newest])
      = if interval < newest.age now then
          older ++ [{ newest with stop := some now }, ⟨now, none, amount⟩]
        else
          older ++ [{ newest with amount := newest.amount + amount }] := by
  simp [tally]

/-- A bin that has just begun holds exactly the first amount that it takes in. -/
theorem opening_taking (amount : Amount) (now : Int)
    : { opening now with amount := (opening now).amount + amount } = Bin.mk now none amount :=
  congrArg (Bin.mk now none) amount.zero_add

theorem tally_opening {interval : Int} (nonneg : 0 ≤ interval) (amount : Amount) (now : Int)
    : tally interval amount now [.opening now] = tally interval amount now [] := by
  have young : ¬ interval < (opening now).age now := by
    rw [Tracker.age_opening]
    exact Int.not_lt.mpr nonneg
  rw [← List.nil_append [opening now], tally_concat, if_neg young, opening_taking]
  rfl

end Bin

namespace Tracker

-----------------------------------------------------------------------------------------
-- Looks
-----------------------------------------------------------------------------------------

/-- A number of looks makes a tracker ready. Each of them but the last changes the bins and finds
that another one is due, the last one finds nothing to do, and none of them is futile.
-/
inductive Looks (now : Int) : Tracker → Nat → Tracker → Prop
  | ready {tracker} (turned : tracker.turn now = .ready) : Looks now tracker 1 tracker
  | again {tracker next count last} (turned : tracker.turn now = .again next)
    (later : Looks now next count last)
    : Looks now tracker (count + 1) last

variable {tracker last : Tracker} {now : Int} {count : Nat}

/-- Settling looks at the bins until they are ready, by induction on the looks. -/
theorem Looks.settle_eq (looks : Looks now tracker count last) : tracker.settle now = last := by
  induction looks with
  | ready turned => exact settle_of_ready turned
  | again turned _ ih => exact (settle_of_again turned).trans ih

/-- The tracker rolled over to a new bin if the newest has been open for too long. -/
def rolled (tracker : Tracker) (now : Int) : Tracker :=
  if tracker.binInterval < tracker.newest.age now then tracker.roll now else tracker

/-- A bin that begins now is ready, so rolling over is done once at most. -/
theorem ready_roll (young : tracker.oldest.age now ≤ tracker.reach)
    : (tracker.roll now).Ready now := by
  constructor
  · rwa [Bin.age, oldest_roll]
  · change (Bin.opening now).age now ≤ tracker.binInterval
    rw [age_opening]
    exact Int.natCast_nonneg _

theorem looks_rolled (young : tracker.oldest.age now ≤ tracker.reach)
    : ∃ count ≤ 2, Looks now tracker count (tracker.rolled now) := by
  have stays : ¬ tracker.reach < tracker.oldest.age now := Int.not_lt.mpr young
  unfold rolled
  split
  next due =>
    have turned : tracker.turn now = .again (tracker.roll now) := by
      rw [turn_eq, if_neg stays, if_pos due]
    exact ⟨2, le_rfl, .again turned (.ready (turn_eq_ready_iff.mpr (ready_roll young)))⟩
  next fresh =>
    exact ⟨1, by decide, .ready (turn_eq_ready_iff.mpr ⟨young, Int.not_lt.mp fresh⟩)⟩

/-- Dropping what is beyond the reach and rolling over is all there is to do: what is left after
dropping is not dropped again.
-/
theorem looks_settled (tracker : Tracker) (now : Int)
    : ∃ count ≤ 3,
        Looks now tracker count ((tracker.restrict tracker.reach now).rolled now) := by
  have young := tracker.age_oldest_restrict (Int.natCast_nonneg tracker.reach) now
  by_cases old : tracker.reach < tracker.oldest.age now
  · have turned : tracker.turn now = .again (tracker.restrict tracker.reach now) := by
      rw [turn_eq, if_pos old]
    obtain ⟨count, few, later⟩ :=
      looks_rolled (young.trans_eq (congrArg _ (tracker.reach_restrict tracker.reach now).symm))
    exact ⟨count + 1, by omega, .again turned later⟩
  · rw [restrict_of_young (Int.not_lt.mp old)]
    obtain ⟨count, few, looks⟩ := looks_rolled (Int.not_lt.mp old)
    exact ⟨count, by omega, looks⟩

theorem settle_eq (tracker : Tracker) (now : Int)
    : tracker.settle now = (tracker.restrict tracker.reach now).rolled now := by
  obtain ⟨_, _, looks⟩ := tracker.looks_settled now
  exact looks.settle_eq

-----------------------------------------------------------------------------------------
-- The bins with an amount
-----------------------------------------------------------------------------------------

/-- An amount goes into the newest of the bins that are left, or into a fresh one behind it. -/
theorem bins_add (tracker : Tracker) (amount : Amount) (now : Int)
    : (tracker.add amount now).bins
      = Bin.tally tracker.binInterval amount now
          (tracker.restrict tracker.reach now).bins := by
  have shape : (tracker.add amount now).bins
      = (tracker.settle now).older
        ++ [{ (tracker.settle now).newest with
          amount := (tracker.settle now).newest.amount + amount }] :=
    rfl
  rw [shape, settle_eq, bins, Bin.tally_concat, rolled, binInterval_restrict]
  split
  next =>
    rw [← Bin.opening_taking]
    exact List.append_assoc _ _ _
  next => rfl

/-- In order, the bins that are left are those within the reach. -/
theorem Sorted.bins_add (sorted : tracker.Sorted) (amount : Amount) (now : Int)
    : (tracker.add amount now).bins
      = Bin.tally tracker.binInterval amount now (tracker.recent tracker.reach now) := by
  rw [Tracker.bins_add, sorted.bins_restrict]
  split
  next none => rw [none, Bin.tally_opening (Int.natCast_nonneg _)]
  next => rfl

/-- Whatever was done to a tracker before, and whatever the clock says now: at most three looks make
its bins ready, none of them futile, and the amount comes in as it would in one stroke.
-/
theorem add_tallies (binInterval reach began : Int) (deeds : List Deed) (amount : Amount)
    (now : Int)
    : let tracker := (start binInterval reach began).performAll deeds
      (∃ count ≤ 3, Looks now tracker count (tracker.settle now))
      ∧ (tracker.add amount now).bins
        = Bin.tally tracker.binInterval amount now (tracker.recent tracker.reach now)
      ∧ (tracker.add amount now).binInterval = tracker.binInterval
      ∧ (tracker.add amount now).reach = tracker.reach := by
  intro tracker
  have spaced : tracker.Spaced := (spaced_start binInterval reach began).performAll deeds
  obtain ⟨reachStays, intervalStays⟩ := tracker.limits_settle now
  refine ⟨?looks, spaced.sorted.bins_add amount now, intervalStays, reachStays⟩
  case looks =>
    rw [settle_eq]
    exact tracker.looks_settled now

/-- All three looks change something: a bin is dropped, the next one is closed, and the amount goes
into a third one.
-/
example
    : (((start 10 60 0).add ⟨1, 0⟩ 40).add ⟨2, 0⟩ 70).bins
      = [⟨40, some 70, ⟨1, 0⟩⟩, ⟨70, none, ⟨2, 0⟩⟩] := by
  decide +kernel

end Tracker

end NetInventory
