import NetInventory.Store.Summary
import NetInventory.Proofs.Inventory.Traffic
import NetInventory.Proofs.Store.AddressIndex
import NetInventory.Proofs.Traffic.Accrual

/-! The traffic of all devices together. Records that come in carry trackers from key to key or
begin new ones, and an amount is counted by one tracker. So as long as no device is lost, no bin is
dropped and no counter is full, the devices together hold what was counted.
-/

namespace NetInventory

def Direction.reported : Direction → SessionDetail → Nat
  | rx, detail => detail.rxTotal.toNat
  | tx, detail => detail.txTotal.toNat

-----------------------------------------------------------------------------------------
-- The trackers of an inventory
-----------------------------------------------------------------------------------------

namespace Inventory

def trackers (inventory : Inventory) : List Tracker :=
  inventory.devices.values.map StoredDevice.usage

variable {inventory rest : Inventory} {key ip : String} {stored : StoredDevice}

theorem trackers_put (free : inventory.devices.get? key = none) (stored : StoredDevice)
    : (inventory.put key stored).trackers.Perm (stored.usage :: inventory.trackers) := by
  have entered := inventory.devices.values_insert_perm key stored
  rw [SortedMap.erase_of_absent free] at entered
  exact entered.map StoredDevice.usage

theorem trackers_take (taken : inventory.take key = some (stored, rest))
    : inventory.trackers.Perm (stored.usage :: rest.trackers) := by
  obtain ⟨present, erased, -⟩ := take_eq_some taken
  rw [trackers, trackers, erased]
  exact (SortedMap.values_perm_of_get? present).map StoredDevice.usage

/-- Flows do not touch the trackers. -/
theorem trackers_replaceConnections (inventory : Inventory) (flows : List Connection)
    : (inventory.replaceConnections flows).2.trackers = inventory.trackers := by
  have same
      : (inventory.replaceConnections flows).2.devices.mapValues StoredDevice.usage
        = inventory.devices.mapValues StoredDevice.usage := by
    refine SortedMap.ext_get? fun key => ?_
    rw [SortedMap.get?_mapValues, SortedMap.get?_mapValues, get?_replaceConnections,
      Option.map_map]
    rfl
  rw [trackers, trackers, ← SortedMap.values_mapValues, ← SortedMap.values_mapValues, same]

/-- An amount is counted by the tracker of the owner of the address, beside all others. -/
theorem trackers_addUsage (owned : inventory.owner? ip = some (key, stored)) (amount : Amount)
    (now : Int)
    : ∃ others,
        inventory.trackers.Perm (stored.usage :: others)
        ∧ (inventory.addUsage ip amount now).2.trackers.Perm
          (stored.usage.add amount now :: others) := by
  obtain ⟨-, present⟩ := owner?_eq_some.mp owned
  refine ⟨(inventory.devices.erase key).values.map StoredDevice.usage,
    (SortedMap.values_perm_of_get? present).map StoredDevice.usage, ?_⟩
  simp only [addUsage, owned, trackers]
  exact (inventory.devices.values_insert_perm key _).map StoredDevice.usage

end Inventory

namespace Store

/-- A record that displaces no device carries the tracker of the device it resolves to, or brings a
new one.
-/
theorem Brought.trackers_perm {inventory next : Inventory} {record merged : DeviceRecord}
    {now : Int64} {usage : Tracker} {created : Bool}
    (brought : Brought inventory record now usage merged created next)
    (free : ¬ Displaces inventory record merged)
    : next.trackers.Perm (if created then usage :: inventory.trackers else inventory.trackers) := by
  cases brought with
  | added resolved _ keyed =>
      exact Inventory.trackers_put (get?_of_not_displaces_unresolved free resolved keyed) _
  | moved resolved taken _ keyed =>
      have vacant := get?_of_not_displaces_taken free resolved taken keyed
      exact (Inventory.trackers_put vacant _).trans (Inventory.trackers_take taken).symm

/-- The summaries report what the trackers hold. -/
theorem reported_summaries (store : Store) (direction : Direction)
    : ((store.summaries []).map fun summary => direction.reported summary.sessionDetail)
      = store.inventory.trackers.map fun tracker => direction.bytes tracker.total := by
  simp only [summaries, Inventory.matching, List.all_nil, List.filter_true, List.map_map,
    Inventory.trackers, SortedMap.values, SortedMap.toList]
  refine List.map_congr_left fun entry _ => ?_
  cases direction <;> rfl

-----------------------------------------------------------------------------------------
-- What a run begins and counts
-----------------------------------------------------------------------------------------

/-- The instant at which a merge began a tracker, if it brought a new device. -/
def beginning (instant : Int) : Except RecordError Outcome → List Int
  | .ok outcome => if outcome.created then [instant] else []
  | .error _ => []

def warmUpBegun : List (Int × DeviceRecord) → Store → List Int
  | [], _ => []
  | (instant, record) :: rest, store =>
    let (result, store, ()) := store.mergeWith (fun _ _ => ()) false instant record ()
    beginning instant result ++ warmUpBegun rest store

theorem warmUpBegun_cons (instant : Int) (record : DeviceRecord)
    (rest : List (Int × DeviceRecord)) (store : Store)
    : warmUpBegun ((instant, record) :: rest) store
      = beginning instant (store.mergeWith (fun _ _ => ()) false instant record ()).1
        ++ warmUpBegun rest (store.mergeWith (fun _ _ => ()) false instant record ()).2.1 := by
  simp only [warmUpBegun]

/-- The instants at which a step began trackers. -/
def Step.begun (store : Store) (step : Step) : List Int :=
  match step.call, step.answer with
  | .merge instant _, .merged result _ | .mergeNoting instant _, .merged result _ =>
      beginning instant result
  | .warmUp records, _ => warmUpBegun records store
  | _, _ => []

/-- The instants at which trackers began in the steps from a store on. -/
def begun : Store → List Step → List Int
  | _, [] => []
  | store, step :: rest => step.begun store ++ begun step.after rest

/-- The amount that a step counted for a device. -/
def Step.counted (step : Step) : List Increment :=
  match step.call, step.answer with
  | .addUsage instant _ amount, .counted true => [⟨instant, amount⟩]
  | _, _ => []

/-- The call removes no device and drops no traffic. -/
def Call.Retains : Call → Prop
  | .prune _ | .trimUsage _ _ => False
  | _ => True

variable {store last : Store}

theorem Consistent.mergeWith {σ : Type} {raw : DeviceRecord}
    (consistent : Consistent store.inventory) (changed : DeviceRecord → σ → σ) (alerting : Bool)
    (instant : Int) (noted : σ) (fit : ∀ record, accept raw = .ok record → record.Tidy)
    : Consistent (store.mergeWith changed alerting instant raw noted).2.1.inventory :=
  (changes_mergeWith changed alerting instant store noted fit .done).kept kept_consistent consistent

theorem reach_mergeWith {σ : Type} (changed : DeviceRecord → σ → σ) (alerting : Bool)
    (instant : Int) (raw : DeviceRecord) (store : Store) (noted : σ)
    : (store.mergeWith changed alerting instant raw noted).2.1.reach = store.reach := by
  cases accepted : accept raw with
  | error error => rw [mergeWith_of_refused changed alerting instant store noted accepted]
  | ok record =>
      obtain ⟨_, _, _, _, result⟩ :=
        mergeWith_of_accepted changed alerting instant store noted accepted
      rw [result]

theorem reach_warmUpEach (records : List (Int × DeviceRecord)) (store : Store)
    : (store.warmUpEach records).2.reach = store.reach := by
  induction records generalizing store with
  | nil => rfl
  | cons first rest ih => rw [warmUpEach_cons_snd, ih, reach_mergeWith]

theorem reach_perform (store : Store) (call : Call)
    : (store.perform call).2.reach = store.reach := by
  cases call with
  | merge instant record => simp only [perform_merge, reach_mergeWith]
  | mergeNoting instant record => simp only [perform_mergeNoting, reach_mergeWith]
  | warmUp records => simp only [perform_warmUp, reach_warmUpEach]
  | prune _ | replaceConnections _ | addUsage _ _ _ | trimUsage _ _ => rfl

/-- A merge begins at most one tracker and counts nothing. -/
theorem accrues_mergeWith {σ : Type} (changed : DeviceRecord → σ → σ) (alerting : Bool)
    (instant : Int) {raw : DeviceRecord} (noted : σ) (consistent : Consistent store.inventory)
    (fit : ∀ record, accept raw = .ok record → record.Tidy)
    : Accrues store.reach store.inventory.trackers
        (beginning instant (store.mergeWith changed alerting instant raw noted).1) []
        (store.mergeWith changed alerting instant raw noted).2.1.inventory.trackers := by
  cases accepted : accept raw with
  | error error =>
      rw [mergeWith_of_refused changed alerting instant store noted accepted]
      exact .done
  | ok record =>
      obtain ⟨merged, created, next, brought, result⟩ :=
        mergeWith_of_accepted changed alerting instant store noted accepted
      have carried := brought.trackers_perm
        (brought.not_displaces consistent.regular consistent.indexed (fit record accepted))
      rw [result]
      cases created with
      | false => exact .reorder carried.symm .done
      | true => exact .begin (.reorder carried.symm .done)

/-- A warm-up begins trackers for its records one after the other, by induction on them. -/
theorem accrues_warmUpEach {records : List (Int × DeviceRecord)}
    (consistent : Consistent store.inventory)
    (fit : ∀ raw ∈ records.map (·.2), ∀ record, accept raw = .ok record → record.Tidy)
    : Accrues store.reach store.inventory.trackers (warmUpBegun records store) []
        (store.warmUpEach records).2.inventory.trackers := by
  induction records generalizing store with
  | nil => exact .done
  | cons entry rest ih =>
      obtain ⟨instant, record⟩ := entry
      obtain ⟨fitFirst, fitRest⟩ := List.forall_mem_cons.mp fit
      have first := accrues_mergeWith (fun _ _ => ()) false instant () consistent fitFirst
      have later := ih (consistent.mergeWith (fun _ _ => ()) false instant () fitFirst) fitRest
      rw [reach_mergeWith] at later
      rw [warmUpEach_cons_snd, warmUpBegun_cons]
      exact first.trans later

theorem accrues_addUsage (store : Store) (instant : Int) (ip : String) (amount : Amount)
    : Accrues store.reach store.inventory.trackers []
        (store.step (.addUsage instant ip amount)).counted
        (store.step (.addUsage instant ip amount)).after.inventory.trackers := by
  cases owned : store.inventory.owner? ip with
  | none =>
      simp only [step, perform, addUsage, Inventory.addUsage_of_unowned owned, Step.counted]
      exact .done
  | some owner =>
      obtain ⟨key, stored⟩ := owner
      obtain ⟨others, before, after⟩ := Inventory.trackers_addUsage owned amount instant
      have found := (Inventory.get?_addUsage owned amount instant key).1
      simp only [step, perform, addUsage, found, Step.counted]
      have counted
          : Accrues store.reach (stored.usage :: others) [] [⟨instant, amount⟩]
              (store.inventory.addUsage ip amount instant).2.trackers :=
        .count (.reorder after.symm .done)
      exact .reorder before counted

/-- Every step that retains what there is begins trackers and counts amounts, and does nothing else
to the trackers.
-/
theorem accrues_step (store : Store) {call : Call} (consistent : Consistent store.inventory)
    (retains : call.Retains) (admits : call.Admits DeviceRecord.Tidy)
    : Accrues store.reach store.inventory.trackers ((store.step call).begun store)
        (store.step call).counted (store.step call).after.inventory.trackers := by
  cases call with
  | merge instant record =>
      simp only [step, Step.begun, Step.counted, perform_merge]
      exact accrues_mergeWith _ true instant () consistent (admits record List.mem_cons_self)
  | mergeNoting instant record =>
      simp only [step, Step.begun, Step.counted, perform_mergeNoting]
      exact accrues_mergeWith _ true instant [] consistent (admits record List.mem_cons_self)
  | warmUp records =>
      simp only [step, Step.begun, Step.counted, perform_warmUp]
      exact accrues_warmUpEach consistent admits
  | replaceConnections flows =>
      have same := store.inventory.trackers_replaceConnections flows
      simp only [step, Step.begun, Step.counted, perform, replaceConnections]
      exact same ▸ .done
  | addUsage instant ip amount => exact accrues_addUsage store instant ip amount
  | prune _ | trimUsage _ _ => exact retains.elim

/-- Nor does a run do anything else to the trackers, by induction on its steps. -/
theorem Run.accrues {steps : List Step} (run : Run store steps last)
    (consistent : Consistent store.inventory) (retains : ∀ step ∈ steps, step.call.Retains)
    (tidy : ∀ step ∈ steps, step.call.Admits DeviceRecord.Tidy)
    : Accrues store.reach store.inventory.trackers (begun store steps)
        (steps.flatMap Step.counted) last.inventory.trackers := by
  induction run with
  | done => exact .done
  | @step store call rest last _ ih =>
      obtain ⟨stays, others⟩ := List.forall_mem_cons.mp retains
      obtain ⟨admits, tidyRest⟩ := List.forall_mem_cons.mp tidy
      have first := accrues_step store consistent stays admits
      have next : Consistent (store.step call).after.inventory :=
        (changes_perform store admits).kept kept_consistent consistent
      have later := ih next others tidyRest
      have same : (store.step call).after.reach = store.reach := reach_perform store call
      rw [same] at later
      exact first.trans later

/-- In a run of tidy records that starts with an empty store and removes nothing, in which no amount
is counted later than the reach after any tracker began and no counter is full at the end, the
totals in the summaries add up to the amounts that were counted for devices.
-/
theorem Run.traffic_conserved {clock : Clock} {binInterval reach : Int} {steps : List Step}
    (direction : Direction) (run : Run (.empty clock binInterval reach) steps last)
    (retains : ∀ step ∈ steps, step.call.Retains)
    (tidy : ∀ step ∈ steps, step.call.Admits DeviceRecord.Tidy)
    (near
      : ∀ increment ∈ steps.flatMap Step.counted,
          ∀ instant ∈ begun (.empty clock binInterval reach) steps,
            increment.instant - instant ≤ reach.toNat)
    (fits
      : ∀ summary ∈ last.summaries [],
          direction.reported summary.sessionDetail < UInt64.size - 1)
    : ((last.summaries []).map fun summary => direction.reported summary.sessionDetail).sum
      = direction.counted (steps.flatMap Step.counted) := by
  have accrues := run.accrues ⟨regular_empty, Inventory.indexed_empty⟩ retains tidy
  have room
      : ∀ tracker ∈ last.inventory.trackers,
          direction.bytes tracker.total < UInt64.size - 1 := by
    intro tracker member
    have reported : direction.bytes tracker.total
        ∈ (last.summaries []).map fun summary => direction.reported summary.sessionDetail := by
      rw [reported_summaries]
      exact List.mem_map_of_mem member
    obtain ⟨summary, among, same⟩ := List.mem_map.mp reported
    exact same ▸ fits summary among
  have sum := (accrues.conserves (by nofun) (List.Subset.refl _) near room).2
  rw [reported_summaries]
  exact sum.trans (Nat.zero_add _)

/-- A device is counted for before and after it moves to its hardware address, in two bins, and an
amount for an address of no device is not.
-/
theorem Run.traffic_conserved_rekeyed
    : let sighted : DeviceRecord :=
        { DeviceRecord.blank with neigh := .singleton "10.0.0.5" default }
      let first := (empty (.fixed 1000) 100 1000).step (.warmUp [(0, sighted)])
      let counted := first.after.step (.addUsage 50 "10.0.0.5" ⟨7, 2⟩)
      let moved :=
        counted.after.step (.merge 60 { sighted with macAddress := "00:11:22:33:44:55" })
      let again := moved.after.step (.addUsage 200 "10.0.0.5" ⟨3, 0⟩)
      let missed := again.after.step (.addUsage 200 "10.0.0.9" ⟨100, 100⟩)
      ((missed.after.summaries []).map fun summary =>
        Direction.rx.reported summary.sessionDetail).sum
      = 10 := by
  intro sighted first counted moved again missed
  have run : Run (empty (.fixed 1000) 100 1000) [first, counted, moved, again, missed]
      missed.after :=
    .step (.step (.step (.step (.step .done))))
  have retains : ∀ step ∈ [first, counted, moved, again, missed], step.call.Retains := by
    intro step member
    simp only [List.mem_cons, List.not_mem_nil, or_false] at member
    rcases member with rfl | rfl | rfl | rfl | rfl <;> trivial
  have tidy : ∀ step ∈ [first, counted, moved, again, missed],
      step.call.Admits DeviceRecord.Tidy := by
    intro step member
    apply Call.admits_tidy
    simp only [List.mem_cons, List.not_mem_nil, or_false] at member
    rcases member with rfl | rfl | rfl | rfl | rfl <;> decide +kernel
  have near
      : ∀ increment ∈ [first, counted, moved, again, missed].flatMap Step.counted,
          ∀ instant ∈ begun (empty (.fixed 1000) 100 1000)
              [first, counted, moved, again, missed],
            increment.instant - instant ≤ (1000 : Int).toNat := by
    decide +kernel
  have sum := run.traffic_conserved .rx retains tidy near (by decide +kernel)
  exact sum.trans (by decide +kernel)

end Store

end NetInventory
