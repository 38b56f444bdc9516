import NetInventory.Proofs.Store.Displacement

/-! The time of the last update. Every record that comes in gets the reading that the clock gives
then, whatever time it carried, so the time of a stored record is the reading of an earlier merge.
It goes back just when the clock has gone back since.
-/

namespace NetInventory

/-- The clock gave the reading on the way to where it stands later. -/
def Clock.Gave (clock later : Clock) (time : Int64) : Prop :=
  ∃ n, clock.taken ≤ n ∧ n < later.taken ∧ time = clock.readings n

/-- The same clock, perhaps with more readings taken. -/
structure Clock.Reaches (clock later : Clock) : Prop where
  readings : later.readings = clock.readings
  taken : clock.taken ≤ later.taken

theorem Clock.Reaches.read {clock later : Clock} (reaches : clock.Reaches later)
    : clock.Reaches later.read.2 ∧ clock.Gave later.read.2 later.read.1 :=
  ⟨⟨reaches.readings, Nat.le_succ_of_le reaches.taken⟩,
    later.taken, reaches.taken, Nat.lt_succ_self _, congrFun reaches.readings _⟩

theorem Clock.Gave.read {clock later : Clock} {time : Int64} (gave : clock.Gave later time)
    : clock.Gave later.read.2 time := by
  obtain ⟨n, begun, past, same⟩ := gave
  exact ⟨n, begun, Nat.lt_succ_of_lt past, same⟩

section
variable {inventory next : Inventory} {record merged : DeviceRecord} {now : Int64}
  {usage : Tracker} {created : Bool}

/-- A record that came in has the time that the clock gave then. -/
theorem Store.Brought.lastUpdate
    (brought : Brought inventory record now usage merged created next)
    : merged.lastUpdate = now := by
  cases brought with
  | added _ stamp _ => rw [stamp]
  | moved _ _ stamp _ => rw [stamp]

/-- The later one of the two times that merging keeps gives way to the clock. -/
theorem Store.Brought.eq_of_resolved
    (brought : Brought inventory record now usage merged created next) {old : String}
    {stored : StoredDevice}
    (resolved : inventory.resolve record.macAddress record.ips = some old)
    (present : inventory.devices.get? old = some stored)
    : merged = { stored.record.merge record with lastUpdate := now } := by
  cases brought with
  | added unresolved _ _ => simp [unresolved] at resolved
  | moved there taken stamp _ =>
      obtain rfl := Option.some.inj (there.symm.trans resolved)
      obtain rfl := Option.some.inj ((Inventory.take_eq_some taken).1.symm.trans present)
      exact stamp

end

namespace Inventory

/-- The times of all records are readings of the clock. -/
def Stamped (clock later : Clock) : Inventory → Prop :=
  All fun _ record => clock.Gave later record.lastUpdate

variable {clock later : Clock} {inventory next : Inventory}

theorem Stamped.read (stamped : inventory.Stamped clock later)
    : inventory.Stamped clock later.read.2 :=
  fun key stored found => (stamped key stored found).read

theorem Stamped.of_outline (same : next.outline = inventory.outline)
    (stamped : inventory.Stamped clock later)
    : next.Stamped clock later := by
  refine All.of_outline (fun {_ left right} records gave => ?_) same stamped
  have times : left.lastUpdate = right.lastUpdate := congrArg (·.lastUpdate) records
  exact times ▸ gave

/-- A record that comes in is stamped, and a reading that was given before stays one. -/
theorem Stamped.bring (stamped : inventory.Stamped clock later)
    (reaches : clock.Reaches later) {record merged : DeviceRecord} {usage : Tracker}
    {created : Bool}
    (brought : Store.Brought inventory record later.read.1 usage merged created next)
    : next.Stamped clock later.read.2 := by
  have now := brought.lastUpdate ▸ reaches.read.2
  cases brought with
  | added _ _ _ => exact stamped.read.put now
  | moved _ taken _ _ => exact (stamped.read.take taken).put now

end Inventory

namespace Store

/-- The store has the clock, and what it stores is stamped with it. -/
structure Follows (clock : Clock) (store : Store) : Prop where
  reaches : clock.Reaches store.clock
  stamped : store.inventory.Stamped clock store.clock

variable {clock : Clock} {store last : Store} {steps : List Step}

theorem follows_empty (clock : Clock) (binInterval reach : Int)
    : Follows clock (.empty clock binInterval reach) :=
  ⟨⟨rfl, Nat.le_refl _⟩, all_empty _⟩

/-- Changes of flows and traffic leave the times and the clock. -/
theorem Follows.of_outline (follows : Follows clock store) {inventory : Inventory}
    (same : inventory.outline = store.inventory.outline)
    : Follows clock { store with inventory } :=
  ⟨follows.reaches, follows.stamped.of_outline same⟩

theorem Follows.mergeWith (follows : Follows clock store) {σ : Type}
    (changed : DeviceRecord → σ → σ) (alerting : Bool) (instant : Int) (raw : DeviceRecord)
    (noted : σ)
    : Follows clock (store.mergeWith changed alerting instant raw noted).2.1 := by
  cases accepted : accept raw with
  | error error => rwa [mergeWith_of_refused changed alerting instant store noted accepted]
  | ok record =>
      obtain ⟨merged, created, next, brought, result⟩ :=
        mergeWith_of_accepted changed alerting instant store noted accepted
      rw [result]
      exact ⟨follows.reaches.read.1, follows.stamped.bring follows.reaches brought⟩

theorem Follows.warmUpEach (follows : Follows clock store) (records : List (Int × DeviceRecord))
    : Follows clock (store.warmUpEach records).2 := by
  induction records generalizing store with
  | nil => exact follows
  | cons first rest ih =>
      rw [warmUpEach_cons_snd]
      exact ih (follows.mergeWith _ _ first.1 first.2 ())

/-- Every call keeps what is stored stamped: only merges set a time. -/
theorem Follows.perform (follows : Follows clock store) (call : Call)
    : Follows clock (store.perform call).2 := by
  cases call with
  | merge instant record =>
      rw [perform_merge]
      exact follows.mergeWith _ _ instant record ()
  | mergeNoting instant record =>
      rw [perform_mergeNoting]
      exact follows.mergeWith _ _ instant record []
  | warmUp records =>
      rw [perform_warmUp]
      exact follows.warmUpEach records
  | prune conditions => exact ⟨follows.reaches, follows.stamped.takeAll _⟩
  | replaceConnections connections =>
      exact follows.of_outline (Inventory.outline_replaceConnections _ connections)
  | addUsage instant ip amount =>
      exact follows.of_outline (Inventory.outline_addUsage _ ip amount instant)
  | trimUsage instants period =>
      exact follows.of_outline (Inventory.outline_trimUsage _ period instants)

theorem Run.follows (run : Run store steps last) (follows : Follows clock store)
    : Follows clock last := by
  induction run with
  | done => exact follows
  | step _ ih => exact ih (follows.perform _)

/-- In every run from an empty store, whatever the clock reads and whatever times the records carry
that come in, the time stored for the device that a record resolves to is the reading that the
merge takes, and the one before is a reading that an earlier merge took. So it does not go back
while the clock does not.
-/
theorem Run.merge_stamps {binInterval reach : Int}
    (run : Run (.empty clock binInterval reach) steps store) {raw record : DeviceRecord}
    (accepted : accept raw = .ok record) {old : String} {stored : StoredDevice}
    (resolved : store.inventory.resolve record.macAddress record.ips = some old)
    (present : store.inventory.devices.get? old = some stored) {σ : Type}
    (changed : DeviceRecord → σ → σ) (alerting : Bool) (instant : Int) (noted : σ)
    : let done := store.mergeWith changed alerting instant raw noted
      ∃ earlier outcome key later,
        done.1 = .ok outcome
        ∧ outcome.record
          = { stored.record.merge record with
              lastUpdate := clock.readings store.clock.taken }
        ∧ outcome.record.key? = some key
        ∧ done.2.1.inventory.devices.get? key = some later
        ∧ later.record = outcome.record
        ∧ clock.taken ≤ earlier
        ∧ earlier < store.clock.taken
        ∧ stored.record.lastUpdate = clock.readings earlier
        ∧ ((∀ n,
            clock.taken ≤ n
            → n < store.clock.taken
            → clock.readings n ≤ clock.readings store.clock.taken)
          → stored.record.lastUpdate ≤ later.record.lastUpdate) := by
  obtain ⟨reaches, stamped⟩ := run.follows (follows_empty clock binInterval reach)
  obtain ⟨earlier, begun, past, before⟩ := stamped old stored present
  obtain ⟨merged, created, next, brought, result⟩ :=
    mergeWith_of_accepted changed alerting instant store noted accepted
  obtain ⟨key, later, keyed, found, same, -⟩ := brought.get?_key
  have now : store.clock.read.1 = clock.readings store.clock.taken :=
    congrFun reaches.readings _
  have after := brought.eq_of_resolved resolved present
  rw [now] at after
  intro done
  have there : done.2.1.inventory.devices.get? key = some later := by
    simpa only [done, result] using found
  refine ⟨earlier, _, key, later, congrArg (·.1) result, after, keyed, there, same, begun, past,
    before, fun advances => ?_⟩
  rw [before, same, after]
  exact advances earlier begun past

/-- A record that carries a late time comes in twice, and the time of its device advances with the
clock.
-/
theorem Run.merge_stamps_late
    : let clock : Clock := ⟨fun n => if n = 0 then 1000 else 2000, 0⟩
      let raw := { DeviceRecord.withMac "aa:bb:cc:dd:ee:ff" with lastUpdate := 9000 }
      let first := (empty clock 0 0).step (.merge 0 raw)
      let done := first.after.mergeWith (fun _ _ => ()) true 0 raw ()
      Run (empty clock 0 0) [first] first.after
      ∧ accept raw = .ok raw
      ∧ ∃ stored,
        first.after.inventory.resolve raw.macAddress raw.ips = some "aa:bb:cc:dd:ee:ff"
        ∧ first.after.inventory.devices.get? "aa:bb:cc:dd:ee:ff" = some stored
        ∧ ∃ outcome,
          done.1 = .ok outcome
          ∧ outcome.record = { stored.record.merge raw with lastUpdate := 2000 }
          ∧ stored.record.lastUpdate ≤ outcome.record.lastUpdate := by
  intro clock raw first done
  have run : Run (empty clock 0 0) [first] first.after := .step .done
  have accepted : accept raw = .ok raw :=
    accept_of_normal (by decide +kernel) (by decide +kernel) (by decide +kernel)
  have resolved
      : first.after.inventory.resolve raw.macAddress raw.ips = some "aa:bb:cc:dd:ee:ff" := by
    decide +kernel
  have there : (first.after.inventory.devices.get? "aa:bb:cc:dd:ee:ff").isSome = true := by
    decide +kernel
  have once : first.after.clock.taken = 1 := by decide +kernel
  obtain ⟨stored, present⟩ := Option.isSome_iff_exists.mp there
  obtain ⟨-, outcome, -, later, result, stamped, -, -, same, -, -, -, advances⟩ :=
    run.merge_stamps accepted resolved present (fun _ _ => ()) true 0 ()
  rw [once] at stamped advances
  refine ⟨run, accepted, stored, resolved, present, outcome, result, stamped, ?_⟩
  rw [← same]
  refine advances fun n _ past => ?_
  obtain rfl := Nat.lt_one_iff.mp past
  decide

/-- The clock goes back by a thousand seconds between two merges of a record, and the time of the
device with it.
-/
theorem Run.merge_stampsBack
    : let clock : Clock := ⟨fun n => if n = 0 then 2000 else 1000, 0⟩
      let raw := DeviceRecord.withMac "aa:bb:cc:dd:ee:ff"
      let first := (empty clock 0 0).step (.merge 0 raw)
      let second := first.after.step (.merge 0 raw)
      Run (empty clock 0 0) [first] first.after
      ∧ accept raw = .ok raw
      ∧ first.after.inventory.resolve raw.macAddress raw.ips = some "aa:bb:cc:dd:ee:ff"
      ∧ ∃ before after,
        first.after.inventory.devices.get? "aa:bb:cc:dd:ee:ff" = some before
        ∧ second.after.inventory.devices.get? "aa:bb:cc:dd:ee:ff" = some after
        ∧ second.answer.outcome?.map (·.record) = some after.record
        ∧ ¬ before.record.lastUpdate ≤ after.record.lastUpdate := by
  intro clock raw first second
  have run : Run (empty clock 0 0) [first] first.after := .step .done
  have accepted : accept raw = .ok raw :=
    accept_of_normal (by decide +kernel) (by decide +kernel) (by decide +kernel)
  have resolved
      : first.after.inventory.resolve raw.macAddress raw.ips = some "aa:bb:cc:dd:ee:ff" := by
    decide +kernel
  have early
      : (first.after.inventory.devices.get? "aa:bb:cc:dd:ee:ff").any
          (·.record.lastUpdate = 2000)
        = true := by
    decide +kernel
  have late
      : (second.after.inventory.devices.get? "aa:bb:cc:dd:ee:ff").any
          (fun after =>
            second.answer.outcome?.map (·.record) = some after.record
            ∧ after.record.lastUpdate = 1000)
        = true := by
    decide +kernel
  obtain ⟨before, present, was⟩ := (Option.any_eq_true ..).mp early
  obtain ⟨after, found, is⟩ := (Option.any_eq_true ..).mp late
  obtain ⟨answered, now⟩ := of_decide_eq_true is
  refine ⟨run, accepted, resolved, before, after, present, found, answered, ?_⟩
  rw [of_decide_eq_true was, now]
  decide

end Store

end NetInventory
