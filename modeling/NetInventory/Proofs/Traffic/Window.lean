import NetInventory.Proofs.Traffic.Restriction

/-! The sliding window of a tracker. Every increment of the log went into a bin that had begun by
then and had not been open for longer than the bin interval, and only bins beyond the reach are
dropped. So the bins that began within a period hold what was counted in it, up to one bin interval.
-/

namespace NetInventory.Tracker

variable {tracker next : Tracker} {now : Int}

-----------------------------------------------------------------------------------------
-- The log of a tracker
-----------------------------------------------------------------------------------------

/-- The increments that are gone and those that are kept in bins: the bins stand in the order in
which they began, and what is gone was made longer ago than the reach, but for one bin interval.
-/
structure Covers (tracker : Tracker) (now : Int) (gone kept : List Increment) : Prop where
  filed : Filed tracker.binInterval tracker.bins kept
  ordered : Ordered now tracker.bins
  gone
    : ∀ increment ∈ gone, tracker.reach - tracker.binInterval < now - increment.instant

/-- The log of a tracker consists of increments that are gone and those that are kept. -/
def Accounts (tracker : Tracker) (now : Int) (log : List Increment) : Prop :=
  ∃ gone kept, log = gone ++ kept ∧ tracker.Covers now gone kept

variable {log gone kept : List Increment} {later : Int}

theorem Covers.mono (covers : tracker.Covers now gone kept) (order : now ≤ later)
    : tracker.Covers later gone kept where
  filed := covers.filed
  ordered := ⟨
    covers.ordered.sorted,
    fun bin member => Int.le_trans (covers.ordered.begun bin member) order
  ⟩
  gone increment member := by
    have before := covers.gone increment member
    omega

/-- Dropping the bins beyond the reach keeps the account: their increments were made at most one
bin interval after the bins began.
-/
theorem Accounts.restrict (accounts : tracker.Accounts now log)
    : (tracker.restrict tracker.reach now).Accounts now log := by
  obtain ⟨gone, kept, rfl, covers⟩ := accounts
  have sorted : tracker.Sorted := covers.ordered.sorted
  obtain ⟨front, shape, dropped⟩ := sorted.exists_old tracker.reach now
  have filed := covers.filed
  rw [shape] at filed
  -- What the dropped bins hold is gone, and what the others hold is kept.
  obtain ⟨lost, left, rfl, filedFront, filedBack⟩ := filed.split
  refine ⟨gone ++ lost, left, by simp, ?_⟩
  refine { filed := ?filed, ordered := ?ordered, gone := ?gone }
  case filed =>
    rw [binInterval_restrict, sorted.bins_restrict]
    split
    next none =>
      rw [none] at filedBack
      cases filedBack
      exact .singleton (Bin.holds_opening _ now)
    next => exact filedBack
  case ordered =>
    rw [sorted.bins_restrict]
    split
    next => exact .opening now
    next => exact covers.ordered.sublist List.filter_sublist
  case gone =>
    intro increment member
    rw [reach_restrict, binInterval_restrict]
    rcases List.mem_append.mp member with before | among
    · exact covers.gone increment before
    · obtain ⟨bin, front, _, made⟩ := filedFront.exists_bin among
      have old := dropped bin front
      unfold Bin.age at old
      omega

/-- Rolling over keeps the account: the new bin is empty and began last. -/
theorem Accounts.roll (accounts : tracker.Accounts now log)
    : (tracker.roll now).Accounts now log := by
  obtain ⟨gone, kept, rfl, covers⟩ := accounts
  obtain ⟨earlier, last, rfl, filedOlder, filedNewest⟩ := covers.filed.split
  have holds := filedNewest.holds_of_singleton
  have closed : Filed tracker.binInterval [{ tracker.newest with stop := some now }] last :=
    .singleton ⟨holds.counted, holds.made⟩
  have opened : Filed tracker.binInterval [.opening now] [] :=
    .singleton (Bin.holds_opening _ now)
  refine ⟨gone, earlier ++ last, rfl, ?_⟩
  refine { filed := ?filed, ordered := ?ordered, gone := covers.gone }
  case filed =>
    have filed := (filedOlder.append closed).append opened
    rwa [List.append_nil, ← bins_roll] at filed
  case ordered =>
    have closed : Ordered now (tracker.older ++ [{ tracker.newest with stop := some now }]) :=
      covers.ordered.replace_last rfl
    rw [bins_roll]
    exact closed.concat

theorem Accounts.settle (accounts : tracker.Accounts now log)
    : (tracker.settle now).Accounts now log :=
  settle_induction (P := fun tracker => tracker.Accounts now log) tracker now
    (fun _ => Accounts.restrict) (fun _ _ _ => Accounts.roll) accounts

theorem accounts_start (binInterval reach now : Int)
    : (start binInterval reach now).Accounts now [] :=
  ⟨[], [], rfl, .singleton (Bin.holds_opening _ now), .opening now, by simp⟩

/-- An amount goes into the newest bin of the settled tracker, which is open at its instant. -/
theorem Accounts.add (accounts : tracker.Accounts now log) (order : now ≤ later)
    {amount : Amount}
    (fits : ∀ direction : Direction, direction.counted (log ++ [⟨later, amount⟩]) < UInt64.size)
    : (tracker.add amount later).Accounts later (log ++ [⟨later, amount⟩]) := by
  obtain ⟨gone, kept, rfl, covers⟩ := accounts
  have moved : tracker.Accounts later (gone ++ kept) := ⟨gone, kept, rfl, covers.mono order⟩
  obtain ⟨lost, left, same, settled⟩ := moved.settle
  obtain ⟨earlier, last, rfl, filedOlder, filedNewest⟩ := settled.filed.split
  have holds := filedNewest.holds_of_singleton
  rw [same] at fits ⊢
  -- The newest bin had begun by now, and is not open for longer than the bin interval.
  have begun := settled.ordered.begun (tracker.settle later).newest (by simp [bins])
  have opened := (tracker.ready_settle later).2
  have counts
      : Bin.Holds (tracker.settle later).binInterval
          { (tracker.settle later).newest with
            amount := (tracker.settle later).newest.amount + amount }
          (last ++ [⟨later, amount⟩]) := by
    refine ⟨fun direction => ?_, fun increment member => ?_⟩
    · have bound := fits direction
      rw [Direction.bytes_add, holds.counted]
      simp only [Direction.counted_append] at bound ⊢
      have single : direction.counted [⟨later, amount⟩] = direction.bytes amount := by
        simp [Direction.counted]
      omega
    · rcases List.mem_append.mp member with before | new
      · exact holds.made increment before
      · obtain rfl := List.mem_singleton.mp new
        refine ⟨begun, ?_⟩
        unfold Bin.age at opened
        dsimp only
        omega
  refine ⟨lost, earlier ++ (last ++ [⟨later, amount⟩]), by simp, ?_⟩
  exact {
    filed := filedOlder.append (.singleton counts)
    ordered := settled.ordered.replace_last rfl
    gone := settled.gone
  }

/-- Counts one increment after the other. -/
def addAll (tracker : Tracker) (log : List Increment) : Tracker :=
  log.foldl (fun tracker increment => tracker.add increment.amount increment.instant) tracker

/-- The tracker accounts for all increments of a log in order, by induction on the log. -/
theorem Accounts.addAll {more : List Increment} (accounts : tracker.Accounts now log)
    (ordered : (now :: more.map (·.instant)).Pairwise (· ≤ ·))
    (fits : ∀ direction : Direction, direction.counted (log ++ more) < UInt64.size)
    : ∃ last,
        (tracker.addAll more).Accounts last (log ++ more)
        ∧ (last = now ∧ more = [] ∨ ∃ increment ∈ more, increment.instant = last) := by
  induction more generalizing tracker now log with
  | nil =>
      rw [List.append_nil]
      exact ⟨now, accounts, .inl ⟨rfl, rfl⟩⟩
  | cons increment rest ih =>
      obtain ⟨first, restOrdered⟩ := List.pairwise_cons.mp ordered
      have shape : log ++ increment :: rest = (log ++ [increment]) ++ rest := by simp
      rw [shape] at fits ⊢
      have fitsFirst (direction : Direction)
          : direction.counted (log ++ [increment]) < UInt64.size := by
        have whole := fits direction
        rw [Direction.counted_append] at whole
        omega
      have added := accounts.add (first _ List.mem_cons_self) fitsFirst
      obtain ⟨last, accounted, origin⟩ := ih added restOrdered fits
      refine ⟨last, accounted, .inr ?_⟩
      rcases origin with ⟨same, -⟩ | ⟨other, member, same⟩
      · exact ⟨increment, List.mem_cons_self, same.symm⟩
      · exact ⟨other, List.mem_cons_of_mem _ member, same⟩

-----------------------------------------------------------------------------------------
-- Bounds of what is counted in a window
-----------------------------------------------------------------------------------------

/-- Bins that began within a period hold at least the increments that were made within it but for
one bin interval, and at most those that were made within it.
-/
theorem Covers.accurate {front back : List Bin} {last period : Int} {amount : Amount}
    (covers : tracker.Covers last gone kept) (shape : tracker.bins = front ++ back)
    (aged : ∀ bin ∈ front, period < bin.age now)
    (young : ∀ bin ∈ back, bin.age now ≤ period)
    (order : gone = [] ∨ last ≤ now) (reached : period ≤ tracker.reach)
    (fits : ∀ direction : Direction, direction.counted (gone ++ kept) < UInt64.size)
    (sum
      : ∀ direction : Direction,
          direction.bytes amount = min (direction.stored back) (UInt64.size - 1))
    : amount.Accurate tracker.binInterval period now (gone ++ kept) := by
  intro direction
  have filed := covers.filed
  rw [shape] at filed
  obtain ⟨earlier, recent, rfl, filedFront, filedBack⟩ := filed.split
  have exactly : direction.bytes amount = direction.counted recent := by
    have whole := fits direction
    simp only [Direction.counted_append] at whole
    have stored := filedBack.stored_eq direction
    have summed := sum direction
    omega
  rw [exactly, ← List.append_assoc]
  refine direction.counted_bounds (fun increment member => ?_) (fun increment member => ?_)
  · rcases List.mem_append.mp member with lost | before
    · have beyond := covers.gone increment lost
      rcases order with none | order
      · simp [none] at lost
      · omega
    · obtain ⟨bin, among, _, made⟩ := filedFront.exists_bin before
      have old := aged bin among
      unfold Bin.age at old
      omega
  · obtain ⟨bin, among, made, _⟩ := filedBack.exists_bin member
    have fresh := young bin among
    unfold Bin.age at fresh
    omega

theorem Covers.accurate_within {last period : Int} (covers : tracker.Covers last gone kept)
    (order : gone = [] ∨ last ≤ now) (reached : period ≤ tracker.reach)
    (fits : ∀ direction : Direction, direction.counted (gone ++ kept) < UInt64.size)
    : (tracker.within period now).Accurate tracker.binInterval period now (gone ++ kept) := by
  have sorted : tracker.Sorted := covers.ordered.sorted
  obtain ⟨old, shape, aged⟩ := sorted.exists_old period now
  have young (bin : Bin) (member : bin ∈ tracker.recent period now) : bin.age now ≤ period :=
    (mem_recent.mp member).2
  refine covers.accurate shape aged young order reached fits fun direction => ?_
  rw [sorted.within_eq, Direction.bytes_sum]

theorem Covers.accurate_total {last : Int} (covers : tracker.Covers last gone kept)
    (young : ∀ bin ∈ tracker.bins, bin.age now ≤ tracker.reach) (order : gone = [] ∨ last ≤ now)
    (fits : ∀ direction : Direction, direction.counted (gone ++ kept) < UInt64.size)
    : tracker.total.Accurate tracker.binInterval tracker.reach now (gone ++ kept) :=
  covers.accurate (List.nil_append _).symm (by simp) young order (Int.le_refl _) fits
    fun direction => direction.bytes_sum _

theorem limits_addAll (tracker : Tracker) (log : List Increment)
    : (tracker.addAll log).reach = tracker.reach
      ∧ (tracker.addAll log).binInterval = tracker.binInterval := by
  induction log generalizing tracker with
  | nil => exact ⟨rfl, rfl⟩
  | cons increment rest ih =>
      obtain ⟨reach, binInterval⟩ := ih (tracker.add increment.amount increment.instant)
      obtain ⟨settledReach, settledInterval⟩ := tracker.limits_settle increment.instant
      exact ⟨reach.trans settledReach, binInterval.trans settledInterval⟩

/-- Directly after an amount was counted no bin is beyond the reach. -/
theorem age_le_reach_add (tracker : Tracker) (amount : Amount) (now : Int)
    {began : Int} (ordered : Ordered began (tracker.add amount now).bins)
    : ∀ bin ∈ (tracker.add amount now).bins, bin.age now ≤ tracker.reach := by
  have oldest : (tracker.add amount now).oldest.age now ≤ tracker.reach := by
    have ready := (tracker.ready_settle now).1
    rw [(tracker.limits_settle now).1] at ready
    have same : (tracker.add amount now).oldest.start = (tracker.settle now).oldest.start := by
      unfold add Tracker.oldest
      dsimp only
      cases (tracker.settle now).older <;> rfl
    unfold Bin.age at ready ⊢
    rwa [same]
  have sorted : (tracker.add amount now).Sorted := ordered.sorted
  intro bin member
  have after := sorted.oldest_le member
  unfold Bin.age at oldest ⊢
  omega

/-- What a tracker that counted a log in order says of a period within its reach lies between what
was counted up to one bin interval short of the period and what was counted in it. Directly after
an amount was counted, so does the sum of all bins for the whole reach.
-/
theorem window_accuracy {binInterval reach began : Int} {log : List Increment}
    (intervalNonneg : 0 ≤ binInterval) (reachNonneg : 0 ≤ reach)
    (ordered : (began :: log.map (·.instant)).Pairwise (· ≤ ·))
    (fits : ∀ direction : Direction, direction.counted log < UInt64.size)
    : (∀ now period,
        (∀ increment ∈ log, increment.instant ≤ now)
        → period ≤ reach
        → (((start binInterval reach began).addAll log).within period now).Accurate
            binInterval period now log)
      ∧ ∀ earlier now amount,
        log = earlier ++ [⟨now, amount⟩]
        → ((start binInterval reach began).addAll log).total.Accurate
            binInterval reach now log := by
  obtain ⟨last, accounts, origin⟩ :=
    (accounts_start binInterval reach began).addAll ordered fits
  obtain ⟨sameReach, sameInterval⟩ := (start binInterval reach began).limits_addAll log
  have reachIs : (((start binInterval reach began).addAll log).reach : Int) = reach := by
    rw [sameReach]
    exact Int.toNat_of_nonneg reachNonneg
  have intervalIs
      : (((start binInterval reach began).addAll log).binInterval : Int) = binInterval := by
    rw [sameInterval]
    exact Int.toNat_of_nonneg intervalNonneg
  obtain ⟨gone, kept, rfl, covers⟩ := accounts
  -- Nothing is gone from an empty log, whose instants bound nothing.
  have order {now : Int} (latest : ∀ increment ∈ gone ++ kept, increment.instant ≤ now)
      : gone = [] ∨ last ≤ now := by
    rcases origin with ⟨-, none⟩ | ⟨increment, member, rfl⟩
    · exact .inl (List.append_eq_nil_iff.mp none).1
    · exact .inr (latest increment member)
  constructor
  · intro now period latest reached
    have accurate := covers.accurate_within (order latest) (reached.trans_eq reachIs.symm) fits
    rwa [intervalIs] at accurate
  · intro earlier now amount ends
    have latest : ∀ increment ∈ gone ++ kept, increment.instant ≤ now := by
      rw [ends, List.map_append] at ordered
      have before := (List.pairwise_append.mp (List.pairwise_cons.mp ordered).2).2.2
      intro increment member
      rcases List.mem_append.mp (ends ▸ member) with earlierOne | final
      · exact before _ (List.mem_map_of_mem earlierOne) now List.mem_cons_self
      · obtain rfl := List.mem_singleton.mp final
        exact Int.le_refl now
    have lastAdded
        : (start binInterval reach began).addAll (gone ++ kept)
          = ((start binInterval reach began).addAll earlier).add amount now := by
      rw [ends]
      simp [addAll]
    have young := age_le_reach_add ((start binInterval reach began).addAll earlier) amount now
      (lastAdded ▸ covers.ordered)
    rw [(limits_addAll _ earlier).1, ← sameReach, ← lastAdded] at young
    have accurate := covers.accurate_total young (order latest) fits
    rwa [intervalIs, reachIs] at accurate

/-- Of two increments in bins of their own the later one is counted alone. -/
theorem window_accuracy_two_bins
    : Direction.rx.bytes
        (((start 10 60 0).addAll [⟨5, ⟨100, 1⟩⟩, ⟨40, ⟨7, 2⟩⟩]).within 20 50)
      = 7 := by
  have ordered
      : ((0 : Int) :: [⟨5, ⟨100, 1⟩⟩, ⟨40, ⟨7, 2⟩⟩].map fun increment : Increment =>
          increment.instant).Pairwise (· ≤ ·) := by
    decide
  have fits (direction : Direction)
      : direction.counted [⟨5, ⟨100, 1⟩⟩, ⟨40, ⟨7, 2⟩⟩] < UInt64.size := by
    cases direction <;> decide +kernel
  have latest (increment : Increment)
      : increment ∈ [⟨5, ⟨100, 1⟩⟩, ⟨40, ⟨7, 2⟩⟩] → increment.instant ≤ 50 := by
    simp only [List.mem_cons, List.not_mem_nil, or_false]
    rintro (rfl | rfl) <;> decide
  have accuracy := window_accuracy (by decide : (0 : Int) ≤ 10) (by decide : (0 : Int) ≤ 60)
    ordered fits
  obtain ⟨lower, upper⟩ := accuracy.1 50 20 latest (by decide) .rx
  have atLeast
      : Direction.rx.counted (Increment.recent (20 - 10) 50 [⟨5, ⟨100, 1⟩⟩, ⟨40, ⟨7, 2⟩⟩]) = 7 := by
    decide +kernel
  have atMost
      : Direction.rx.counted (Increment.recent 20 50 [⟨5, ⟨100, 1⟩⟩, ⟨40, ⟨7, 2⟩⟩]) = 7 := by
    decide +kernel
  omega

end NetInventory.Tracker
