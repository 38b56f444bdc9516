import NetInventory.Proofs.Ingest.Run
import NetInventory.Proofs.Store.Keys

/-! What others learn of stored devices. Every change of a record but that of its flows is made
known at once, so the last record that was made known under a hardware address is the stored one.
-/

namespace NetInventory

/-- Records that agree but for their flows differ in nothing else, both being what is left of them
with some flows.
-/
theorem DeviceRecord.eq_of_withoutFlows {record other : DeviceRecord}
    (same : other.withoutFlows = record.withoutFlows)
    : { record with connections := other.connections } = other :=
  calc
    { record with connections := other.connections }
    _ = { record.withoutFlows with connections := other.connections } := rfl
    _ = { other.withoutFlows with connections := other.connections } := by rw [same]
    _ = other := rfl

/-- The merged record that is made known. -/
def Effect.merged? : Effect → Option DeviceRecord
  | alert _ => none
  | merged record => some record

/-- The last record with a hardware address that was made known. -/
def Effect.lastMerged (mac : String) (effects : List Effect) : Option DeviceRecord :=
  ((effects.filterMap Effect.merged?).filter (·.macAddress = mac)).getLast?

theorem Effect.lastMerged_append {mac : String} {effects more : List Effect}
    {record : DeviceRecord} (known : more.filterMap Effect.merged? = [record])
    : lastMerged mac (effects ++ more)
      = if record.macAddress = mac then some record else lastMerged mac effects := by
  by_cases same : record.macAddress = mac <;> simp [lastMerged, known, same]

namespace Inventory

/-- Every device stands under its own key, and if it has a hardware address, what was last made
known under that address is its record but for the flows.
-/
def Republished (effects : List Effect) : Inventory → Prop :=
  All fun key record =>
    record.key? = some key
    ∧ (record.macAddress ≠ ""
      → ∃ known,
        Effect.lastMerged record.macAddress effects = some known
        ∧ known.withoutFlows = record.withoutFlows)

variable {inventory next : Inventory} {effects more : List Effect} {key : String}
  {stored : StoredDevice}

/-- A record that is made known when it is put may displace the device with its hardware address,
which stands under the same key; what was made known of others stays the last.
-/
theorem Republished.put (republished : inventory.Republished effects)
    (keyed : stored.record.key? = some key)
    (known : more.filterMap Effect.merged? = [stored.record])
    : (inventory.put key stored).Republished (effects ++ more) := by
  intro other later found
  rw [get?_put] at found
  split at found
  next same =>
    obtain rfl := Option.some.inj found
    refine ⟨same ▸ keyed, fun _ => ⟨stored.record, ?_, rfl⟩⟩
    rw [Effect.lastMerged_append known, if_pos rfl]
  next apart =>
    obtain ⟨own, told⟩ := republished other later found
    refine ⟨own, fun named => ?_⟩
    have differs : stored.record.macAddress ≠ later.record.macAddress := by
      intro same
      rw [DeviceRecord.key?_of_mac named] at own
      rw [DeviceRecord.key?_of_mac (same ▸ named), same] at keyed
      exact apart (Option.some.inj (own.symm.trans keyed))
    rw [Effect.lastMerged_append known, if_neg differs]
    exact told named

theorem Republished.of_outline (same : next.outline = inventory.outline)
    (republished : inventory.Republished effects)
    : next.Republished effects := by
  refine All.of_outline (fun {key left right} records told => ?_) same republished
  have keys : left.key? = right.key? := congrArg (·.key?) records
  have macs : left.macAddress = right.macAddress := congrArg (·.macAddress) records
  simpa only [keys, macs, records] using told

end Inventory

namespace Ingest

/-- Handling messages and pruning keep what is stored republished, by cases on what is handled. -/
theorem kept_republished
    : Kept (fun _ => True) fun effects ingest =>
        ingest.store.inventory.Republished effects where
  handled {instant message ingest effects more next} _ way republished := by
    cases way with
    | unread _ | refused _ _ =>
        rw [List.append_nil]
        exact republished
    | @merged raw record merged created inventory read accepted brought =>
        have known
            : List.filterMap Effect.merged?
                ((if created then [.alert (.newDevice record)] else []) ++ [.merged merged])
              = [merged] := by
          cases created <;> rfl
        cases brought with
        | added _ _ keyed => exact republished.put keyed known
        | moved _ taken _ keyed =>
            have left : Inventory.Republished effects _ := republished.take taken
            exact left.put keyed known
    | connected _ =>
        rw [List.append_nil]
        exact republished.of_outline (Inventory.outline_replaceConnections _ _)
    | counted _ _ | uncounted _ _ =>
        rw [List.append_nil]
        exact republished.of_outline (Inventory.outline_addUsage _ _ _ _)
  pruned {ingest _} republished := by
    obtain ⟨keys, inventory, -⟩ := exists_prune ingest
    rw [inventory]
    exact republished.takeAll keys

end Ingest

/-- In every run of ingestion from an empty store, whatever messages, requests and timers come in,
a record was made known under the hardware address of each stored device that has one, and the last
such record says the same as the stored one but for the flows.
-/
theorem IngestActor.run_republishes (clock : Clock) (binInterval reach : Int)
    (config : IngestConfig) (events : List IngestEvent)
    : let (effects, last) :=
        (create (.empty clock binInterval reach) config).performAll events
      ∀ key stored,
        last.ingest.store.inventory.devices.get? key = some stored
        → stored.record.macAddress ≠ ""
        → ∃ known,
          Effect.lastMerged stored.record.macAddress effects = some known
          ∧ { stored.record with connections := known.connections } = known := by
  intro key stored present named
  have start : Inventory.empty.Republished [] := Store.all_empty _
  have republished :=
    run_kept Ingest.kept_republished (.empty clock binInterval reach) config events start
      fun _ _ => trivial
  obtain ⟨known, last, same⟩ := (republished key stored present).2 named
  exact ⟨known, last, DeviceRecord.eq_of_withoutFlows same⟩

/-- An unnamed device is sighted, gets its hardware address and then flows: what was made known
last under that address is the stored record but for the flows.
-/
theorem IngestActor.run_republishes_named
    : let events : List IngestEvent :=
        [.submit ⟨Topic.neigh.text, "[\"10.0.0.5\"]".toUTF8⟩,
          .submit ⟨Topic.arp.text, "[\"10.0.0.5\", \"00:11:22:33:44:55\"]".toUTF8⟩,
          .submit ⟨Topic.connections.text,
            "[[\"10.0.0.5\", 1, \"10.1.1.1\", 443, \"tcp\", 10]]".toUTF8⟩,
          .turn 0, .turn 0, .turn 0]
      let run := (create (.empty (.fixed 0) 0 0) .standard).performAll events
      ∃ stored,
        run.2.ingest.store.inventory.devices.get? "00:11:22:33:44:55" = some stored
        ∧ stored.record.macAddress ≠ ""
        ∧ stored.record.connections ≠ []
        ∧ ∃ known,
          Effect.lastMerged stored.record.macAddress run.1 = some known
          ∧ { stored.record with connections := known.connections } = known := by
  intro events run
  have joined
      : (run.2.ingest.store.inventory.devices.get? "00:11:22:33:44:55").any
          (fun stored => stored.record.macAddress ≠ "" ∧ stored.record.connections ≠ [])
        = true := by
    decide +kernel
  obtain ⟨stored, present, described⟩ := (Option.any_eq_true ..).mp joined
  obtain ⟨named, flows⟩ := of_decide_eq_true described
  refine ⟨stored, present, named, flows, ?_⟩
  -- The run must not be run again to find the statement about it.
  clear_value events
  exact run_republishes (.fixed 0) 0 0 .standard events _ stored present named

end NetInventory
