import Mathlib.Data.List.Chain
import Mathlib.Data.Rat.Floor
import Mathlib.Tactic.Linarith
import NetInventory.Proofs.Traffic.Restriction

/-! The spacing of bins. A new bin begins more than one bin interval after the newest one and within
the reach of the oldest one, and bins are dropped from the front only. So the bins stand in order
and stay few, whatever the clock does.
-/

namespace NetInventory

namespace Bin

/-- One bin began more than an interval after another one, and within the reach of it. -/
def Apart (interval reach : Int) (earlier later : Bin) : Prop :=
  earlier.start + interval < later.start ∧ later.start ≤ earlier.start + reach

def Meets (earlier later : Bin) : Prop :=
  earlier.stop = some later.start

end Bin

namespace Tracker

variable {tracker : Tracker} {now : Int}

/-- Every bin stands apart from those in front of it and meets the next one, and the newest one is
open.
-/
structure Spaced (tracker : Tracker) : Prop where
  apart : tracker.bins.Pairwise (Bin.Apart tracker.binInterval tracker.reach)
  linked : tracker.bins.IsChain Bin.Meets
  opened : tracker.newest.stop = none

-----------------------------------------------------------------------------------------
-- What each operation keeps
-----------------------------------------------------------------------------------------

theorem spaced_start (binInterval reach began : Int)
    : (start binInterval reach began).Spaced :=
  ⟨List.pairwise_singleton _ _, .singleton _, rfl⟩

/-- Dropping bins from the front leaves the spacing of the others, and a fresh bin stands alone. -/
theorem Spaced.restrict (spaced : tracker.Spaced) (period now : Int)
    : (tracker.restrict period now).Spaced := by
  refine ⟨?apart, ?linked, ?opened⟩
  case apart =>
    rw [bins_restrict, reach_restrict, binInterval_restrict]
    split
    · exact List.pairwise_singleton _ _
    · exact spaced.apart.sublist (List.dropWhile_sublist _)
  case linked =>
    rw [bins_restrict]
    split
    · exact .singleton _
    · exact spaced.linked.suffix (List.dropWhile_suffix _)
  case opened =>
    unfold Tracker.restrict
    dsimp only
    split
    · rfl
    · exact spaced.opened

theorem Spaced.sorted (spaced : tracker.Spaced) : tracker.Sorted :=
  spaced.apart.imp fun {earlier later} apart => by
    have after := apart.1
    omega

theorem Spaced.le_newest (spaced : tracker.Spaced) {bin : Bin} (member : bin ∈ tracker.bins)
    : bin.start ≤ tracker.newest.start := by
  rcases List.mem_append.mp member with earlier | last
  · obtain ⟨_, _, before⟩ := List.pairwise_append.mp spaced.apart
    have after := (before bin earlier tracker.newest List.mem_cons_self).1
    omega
  · obtain rfl := List.mem_singleton.mp last
    exact Int.le_refl _

/-- A bin may take the place of the newest one if it began at the same time. -/
theorem Spaced.replace_newest (spaced : tracker.Spaced) (bin : Bin)
    (same : bin.start = tracker.newest.start)
    : (tracker.older ++ [bin]).Pairwise (Bin.Apart tracker.binInterval tracker.reach)
      ∧ (tracker.older ++ [bin]).IsChain Bin.Meets := by
  obtain ⟨apartOlder, _, apartNewest⟩ := List.pairwise_append.mp spaced.apart
  obtain ⟨linkedOlder, _, linkedNewest⟩ := List.isChain_append.mp spaced.linked
  constructor
  · refine List.pairwise_append.mpr ⟨apartOlder, List.pairwise_singleton _ _, ?_⟩
    intro earlier member last final
    obtain rfl := List.mem_singleton.mp final
    have apart := apartNewest earlier member tracker.newest List.mem_cons_self
    rwa [Bin.Apart, same]
  · refine List.isChain_append.mpr ⟨linkedOlder, .singleton _, ?_⟩
    intro earlier member last final
    obtain rfl := Option.some.inj final
    have meets := linkedNewest earlier member tracker.newest rfl
    rwa [Bin.Meets, same]

/-- Rolling over puts a bin behind the newest one that is far enough from it, and near enough to the
oldest one, since that was not due to be dropped.
-/
theorem Spaced.roll (spaced : tracker.Spaced) (young : tracker.oldest.age now ≤ tracker.reach)
    (due : tracker.binInterval < tracker.newest.age now)
    : (tracker.roll now).Spaced := by
  obtain ⟨apart, linked⟩ :=
    spaced.replace_newest { tracker.newest with stop := some now } rfl
  refine ⟨?apart, ?linked, rfl⟩
  case apart =>
    rw [bins_roll]
    refine List.pairwise_append.mpr ⟨apart, List.pairwise_singleton _ _, ?_⟩
    intro earlier member opening final
    obtain rfl := List.mem_singleton.mp final
    -- Between the oldest and the newest bin, the bounds that hold of these two hold of all.
    have bounds
        : tracker.oldest.start ≤ earlier.start ∧ earlier.start ≤ tracker.newest.start := by
      rcases List.mem_append.mp member with older | closed
      · have among : earlier ∈ tracker.bins := List.mem_append_left _ older
        exact ⟨spaced.sorted.oldest_le among, spaced.le_newest among⟩
      · obtain rfl := List.mem_singleton.mp closed
        have among : tracker.newest ∈ tracker.bins := by simp [bins]
        have after := spaced.sorted.oldest_le among
        exact ⟨after, Int.le_refl _⟩
    unfold Bin.age at young due
    change earlier.start + tracker.binInterval < now ∧ now ≤ earlier.start + tracker.reach
    omega
  case linked =>
    rw [bins_roll]
    refine List.isChain_append.mpr ⟨linked, .singleton _, ?_⟩
    intro closed member opening first
    obtain rfl : { tracker.newest with stop := some now } = closed := by simpa using member
    obtain rfl := Option.some.inj first
    rfl

theorem Spaced.settle (spaced : tracker.Spaced) (now : Int) : (tracker.settle now).Spaced :=
  settle_induction (P := Spaced) tracker now
    (fun tracker spaced => spaced.restrict tracker.reach now)
    (fun _ young due spaced => spaced.roll young due)
    spaced

/-- Counting an amount changes neither when a bin began nor when it ended. -/
theorem Spaced.add (spaced : tracker.Spaced) (amount : Amount) (now : Int)
    : (tracker.add amount now).Spaced := by
  have settled := spaced.settle now
  let newest := (tracker.settle now).newest
  obtain ⟨apart, linked⟩ :=
    settled.replace_newest { newest with amount := newest.amount + amount } rfl
  exact ⟨apart, linked, settled.opened⟩

-----------------------------------------------------------------------------------------
-- What the spacing says of the bins
-----------------------------------------------------------------------------------------

theorem Spaced.consecutive (spaced : tracker.Spaced) {front back : List Bin} {earlier later : Bin}
    (shape : tracker.bins = front ++ earlier :: later :: back)
    : Bin.Apart tracker.binInterval tracker.reach earlier later ∧ Bin.Meets earlier later := by
  have apart := spaced.apart
  have linked := spaced.linked
  rw [shape] at apart linked
  have apartBack := (List.pairwise_append.mp apart).2.1
  exact ⟨
    (List.pairwise_cons.mp apartBack).1 later List.mem_cons_self,
    (List.isChain_cons_cons.mp linked.right_of_append).1
  ⟩

/-- Only the newest bin is open, since every other one ended when the next one began. -/
theorem Spaced.stop_eq_none_iff (spaced : tracker.Spaced) {front back : List Bin} {bin : Bin}
    (shape : tracker.bins = front ++ bin :: back)
    : bin.stop = none ↔ back = [] := by
  cases back with
  | nil =>
      have newest : tracker.newest = bin := by
        have last := congrArg List.getLast? shape
        simpa [bins] using last
      exact ⟨fun _ => rfl, fun _ => newest ▸ spaced.opened⟩
  | cons later rest =>
      have meets : bin.stop = some later.start := (spaced.consecutive shape).2
      simp [meets]

theorem Spaced.le_oldest_add (spaced : tracker.Spaced) {bin : Bin} (member : bin ∈ tracker.bins)
    : bin.start ≤ tracker.oldest.start + tracker.reach := by
  obtain ⟨rest, shape⟩ := tracker.bins_eq_cons
  have apart := spaced.apart
  rw [shape] at apart member
  rcases List.mem_cons.mp member with rfl | later
  · omega
  · exact ((List.pairwise_cons.mp apart).1 bin later).2

/-- The last of several bins began at least as many bin intervals after the first one as there are
bins between, by induction on them.
-/
theorem exists_apart {interval reach : Int} (first : Bin) (rest : List Bin)
    (apart : (first :: rest).Pairwise (Bin.Apart interval reach))
    : ∃ last ∈ first :: rest, first.start + (interval + 1) * rest.length ≤ last.start := by
  induction rest generalizing first with
  | nil => exact ⟨first, List.mem_cons_self, by simp⟩
  | cons second rest ih =>
      obtain ⟨after, apartRest⟩ := List.pairwise_cons.mp apart
      obtain ⟨last, member, far⟩ := ih second apartRest
      have near := (after second List.mem_cons_self).1
      refine ⟨last, List.mem_cons_of_mem first member, ?_⟩
      rw [List.length_cons, Nat.cast_add, Nat.cast_one, mul_add]
      omega

/-- Bins are at most as many as intervals begin within the reach, but at least one. -/
theorem Spaced.size_le (spaced : tracker.Spaced) (wide : 0 < tracker.binInterval)
    : (tracker.bins.length : Int) ≤ max 1 ⌈(tracker.reach : ℚ) / tracker.binInterval⌉ := by
  obtain ⟨rest, shape⟩ := tracker.bins_eq_cons
  have apart := spaced.apart
  rw [shape] at apart ⊢
  cases rest with
  | nil => exact le_max_left _ _
  | cons second rest =>
      obtain ⟨last, member, far⟩ := exists_apart _ _ apart
      have near := spaced.le_oldest_add (shape ▸ member)
      have room : (tracker.binInterval : Int) * (rest.length + 1) < tracker.reach := by
        rw [List.length_cons, Nat.cast_add, Nat.cast_one, add_mul, one_mul] at far
        omega
      refine le_trans ?_ (le_max_right _ _)
      rw [List.length_cons, List.length_cons, Nat.cast_add, Nat.cast_one, Int.add_one_le_iff,
        Int.lt_ceil, lt_div_iff₀ (by exact_mod_cast wide), mul_comm]
      exact_mod_cast room

-----------------------------------------------------------------------------------------
-- Histories of a tracker
-----------------------------------------------------------------------------------------

/-- What is done to a tracker: an amount is counted, or bins that are too old are dropped. -/
inductive Deed where
  | add (amount : Amount) (now : Int)
  | restrict (period now : Int)

def perform (tracker : Tracker) : Deed → Tracker
  | .add amount now => tracker.add amount now
  | .restrict period now => tracker.restrict period now

def performAll (tracker : Tracker) (deeds : List Deed) : Tracker :=
  deeds.foldl perform tracker

theorem Spaced.performAll (spaced : tracker.Spaced) (deeds : List Deed)
    : (tracker.performAll deeds).Spaced := by
  induction deeds generalizing tracker with
  | nil => exact spaced
  | cons deed rest ih =>
      cases deed with
      | add amount now => exact ih (spaced.add amount now)
      | restrict period now => exact ih (spaced.restrict period now)

theorem limits_performAll (tracker : Tracker) (deeds : List Deed)
    : (tracker.performAll deeds).reach = tracker.reach
      ∧ (tracker.performAll deeds).binInterval = tracker.binInterval := by
  induction deeds generalizing tracker with
  | nil => exact ⟨rfl, rfl⟩
  | cons deed rest ih =>
      obtain ⟨reach, binInterval⟩ := ih (tracker.perform deed)
      cases deed with
      | add amount now =>
          obtain ⟨settledReach, settledInterval⟩ := tracker.limits_settle now
          exact ⟨reach.trans settledReach, binInterval.trans settledInterval⟩
      | restrict period now =>
          exact ⟨
            reach.trans (tracker.reach_restrict period now),
            binInterval.trans (tracker.binInterval_restrict period now)
          ⟩

/-- Whatever is done to a tracker at whatever instants, it has a bin; consecutive bins meet and
began more than one bin interval apart; the newest began within the reach of the oldest; exactly the
last one is open; there are no more of them than bin intervals begin within the reach, but for one;
and those that are too old for a period stand in front of the others.
-/
theorem bins_spaced (binInterval reach began : Int) (deeds : List Deed)
    : let bins := ((start binInterval reach began).performAll deeds).bins
      bins ≠ []
      ∧ (∀ front earlier later back,
        bins = front ++ earlier :: later :: back
        → max binInterval 0 < later.start - earlier.start ∧ earlier.stop = some later.start)
      ∧ (∀ oldest ∈ bins.head?,
        ∀ newest ∈ bins.getLast?, newest.start - oldest.start ≤ max reach 0)
      ∧ (∀ front bin back, bins = front ++ bin :: back → (bin.stop = none ↔ back = []))
      ∧ (0 < binInterval → (bins.length : Int) ≤ max 1 ⌈(reach : ℚ) / binInterval⌉)
      ∧ ∀ period now,
        ∃ front back,
          bins = front ++ back
          ∧ (∀ bin ∈ front, period < bin.age now)
          ∧ ∀ bin ∈ back, bin.age now ≤ period := by
  have spaced := (spaced_start binInterval reach began).performAll deeds
  obtain ⟨sameReach, sameInterval⟩ := (start binInterval reach began).limits_performAll deeds
  generalize (start binInterval reach began).performAll deeds = tracker
    at spaced sameReach sameInterval
  have reachIs : (tracker.reach : Int) = max reach 0 := by
    rw [sameReach]
    exact Int.toNat_eq_max reach
  have intervalIs : (tracker.binInterval : Int) = max binInterval 0 := by
    rw [sameInterval]
    exact Int.toNat_eq_max binInterval
  obtain ⟨rest, first⟩ := tracker.bins_eq_cons
  refine ⟨?nonempty, ?consecutive, ?near, fun _ _ _ => spaced.stop_eq_none_iff, ?few,
    ?parted⟩
  case nonempty =>
    rw [first]
    exact List.cons_ne_nil _ _
  case consecutive =>
    intro front earlier later back shape
    obtain ⟨⟨apart, _⟩, meets⟩ := spaced.consecutive shape
    exact ⟨by omega, meets⟩
  case near =>
    intro oldest atFront newest atBack
    obtain rfl : tracker.oldest = oldest := by simpa [first] using atFront
    have near := spaced.le_oldest_add (List.mem_of_getLast? atBack)
    omega
  case few =>
    intro wide
    have bound := spaced.size_le (by omega)
    rw [max_eq_left wide.le] at intervalIs
    rcases le_total 0 reach with nonneg | neg
    · rw [max_eq_left nonneg] at reachIs
      rwa [← reachIs, ← intervalIs, Int.cast_natCast, Int.cast_natCast]
    · have none : tracker.reach = 0 := by omega
      rw [none] at bound
      simp only [Nat.cast_zero, zero_div, Int.ceil_zero] at bound
      exact le_trans bound (max_le (le_max_left _ _) (le_trans (by decide) (le_max_left _ _)))
  case parted =>
    intro period now
    obtain ⟨old, shape, tooOld⟩ := spaced.sorted.exists_old period now
    exact ⟨old, _, shape, tooOld, fun bin member => (mem_recent.mp member).2⟩

/-- The clock jumps ahead and back. Of the two bins that are there in the end, the older one ended
when the newer one began, and at most five bins of 40 would be kept of a reach of 200.
-/
theorem bins_spaced_jumping
    : let bins :=
        ((start 40 200 0).performAll
          [.add ⟨1, 0⟩ 100, .add ⟨1, 0⟩ 30, .restrict (-50) 90, .add ⟨1, 0⟩ 180]).bins
      let earlier : Bin := ⟨90, some 180, .zero⟩
      let later : Bin := ⟨180, none, ⟨1, 0⟩⟩
      bins = [] ++ earlier :: later :: []
      ∧ max 40 0 < later.start - earlier.start
      ∧ earlier.stop = some later.start
      ∧ later.start - earlier.start ≤ max 200 0
      ∧ (later.stop = none ↔ ([] : List Bin) = [])
      ∧ 0 < (40 : Int)
      ∧ (bins.length : Int) ≤ 5 := by
  intro bins earlier later
  have shape : bins = [] ++ earlier :: later :: [] := by decide +kernel
  have first : earlier ∈ bins.head? := by rw [shape]; rfl
  have last : later ∈ bins.getLast? := by rw [shape]; rfl
  obtain ⟨-, consecutive, near, opened, few, -⟩ := bins_spaced 40 200 0
    [.add ⟨1, 0⟩ 100, .add ⟨1, 0⟩ 30, .restrict (-50) 90, .add ⟨1, 0⟩ 180]
  have bound : max 1 ⌈((200 : Int) : ℚ) / (40 : Int)⌉ = 5 := by norm_num
  obtain ⟨apart, meets⟩ := consecutive [] earlier later [] shape
  exact ⟨
    shape,
    apart,
    meets,
    near earlier first later last,
    opened [earlier] later [] shape,
    by decide,
    bound ▸ few (by decide)
  ⟩

/-- Whatever was done to a tracker before: the bins that began within a period stand behind those
that are too old for it, so that both searches end at one place. Dropping keeps exactly them, as
they are and in their order, or else leaves one that is empty and begins now; what was counted
within the period is the total afterwards; and of two periods the shorter one decides.
-/
theorem restrict_within (binInterval reach began : Int) (deeds : List Deed) (now : Int)
    : let tracker := (start binInterval reach began).performAll deeds
      (∀ period,
        let kept := tracker.bins.filter fun bin => bin.age now ≤ period
        (∃ old, tracker.bins = old ++ kept ∧ ∀ bin ∈ old, period < bin.age now)
        ∧ (tracker.restrict period now).bins = (if kept = [] then [.opening now] else kept)
        ∧ tracker.within period now = (tracker.restrict period now).total)
      ∧ ∀ first second,
        (tracker.restrict first now).restrict second now
          = tracker.restrict (min first second) now := by
  intro tracker
  have sorted : tracker.Sorted :=
    ((spaced_start binInterval reach began).performAll deeds).sorted
  refine ⟨fun period => ⟨?parted, ?kept, ?counted⟩, ?twice⟩
  case parted => exact sorted.exists_old period now
  case kept => exact sorted.bins_restrict period now
  case counted => exact (sorted.total_restrict period now).symm
  case twice => exact fun first second => sorted.restrict_restrict first second now

end Tracker

end NetInventory
