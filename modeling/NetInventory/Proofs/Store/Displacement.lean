import NetInventory.Proofs.Store.AddressIndex

/-! What a merge does to the other devices. The merged record enters under a key of its own, and a
device that stands there already is lost unless it is the one that the record resolved to. This is
the only loss, and it needs a merged record without a hardware address.
-/

namespace NetInventory.Store

-----------------------------------------------------------------------------------------
-- The inventory after a record came in
-----------------------------------------------------------------------------------------

section
variable {inventory next : Inventory} {record merged : DeviceRecord} {now : Int64}
  {usage : Tracker} {created : Bool}

/-- Devices under other keys than the old and the new one of the merged record stay. -/
theorem Brought.get?_elsewhere (brought : Brought inventory record now usage merged created next)
    {other : String}
    (unresolved : inventory.resolve record.macAddress record.ips ≠ some other)
    (elsewhere : merged.key? ≠ some other)
    : next.devices.get? other = inventory.devices.get? other := by
  cases brought with
  | @added key _ _ keyed =>
      have apart : other ≠ key := fun same => elsewhere (same ▸ keyed)
      rw [Inventory.get?_put, if_neg apart]
  | @moved key old stored rest resolved taken _ keyed =>
      have apart : other ≠ key := fun same => elsewhere (same ▸ keyed)
      have distinct : other ≠ old := fun same => unresolved (same ▸ resolved)
      rw [Inventory.get?_put, if_neg apart, Inventory.get?_take taken, if_neg distinct]

/-- The merged record stands under its key, with the traffic of the device it resolved to. -/
theorem Brought.get?_key (brought : Brought inventory record now usage merged created next)
    : ∃ key later,
        merged.key? = some key
        ∧ next.devices.get? key = some later
        ∧ later.record = merged
        ∧ ∀ old stored,
          inventory.resolve record.macAddress record.ips = some old
          → inventory.devices.get? old = some stored
          → later.usage = stored.usage := by
  cases brought with
  | @added key resolved _ keyed =>
      refine ⟨key, ⟨merged, usage⟩, keyed, by rw [Inventory.get?_put, if_pos rfl], rfl, ?_⟩
      intro old stored there
      simp [resolved] at there
  | @moved key _ moving rest resolved taken _ keyed =>
      refine
        ⟨key, ⟨merged, moving.usage⟩, keyed, by rw [Inventory.get?_put, if_pos rfl], rfl, ?_⟩
      intro old stored there present
      obtain rfl := Option.some.inj (resolved.symm.trans there)
      obtain rfl := Option.some.inj ((Inventory.take_eq_some taken).1.symm.trans present)
      rfl

/-- Every address of the merged record belongs to its key. -/
theorem Brought.owners_of_mem (brought : Brought inventory record now usage merged created next)
    {ip : String} (member : ip ∈ merged.ips)
    : next.owners.get? ip = merged.key? := by
  cases brought with
  | added _ _ keyed => rw [Inventory.get?_owners_put, if_pos member, keyed]
  | moved _ _ _ keyed => rw [Inventory.get?_owners_put, if_pos member, keyed]

/-- The merged record has the addresses of the incoming one. -/
theorem Brought.mem_ips (brought : Brought inventory record now usage merged created next)
    {ip : String} (member : ip ∈ record.ips)
    : ip ∈ merged.ips := by
  cases brought with
  | added _ stamped _ => exact stamped ▸ member
  | moved _ _ stamped _ => exact stamped ▸ DeviceRecord.mem_ips_merge_of_incoming member

/-- An address that the merged record does not have stays in the index as it was, unless it belonged
to the device that the record resolved to.
-/
theorem Brought.owners_of_not_mem
    (brought : Brought inventory record now usage merged created next) {ip : String}
    (absent : ip ∉ merged.ips)
    (unresolved
      : ∀ old,
          inventory.resolve record.macAddress record.ips = some old
          → inventory.owners.get? ip ≠ some old)
    : next.owners.get? ip = inventory.owners.get? ip := by
  cases brought with
  | added _ _ _ => rw [Inventory.get?_owners_put, if_neg absent]
  | @moved _ old _ _ resolved taken _ _ =>
      have elsewhere := unresolved old resolved
      rw [Inventory.get?_owners_put, if_neg absent, (Inventory.take_eq_some taken).2.2,
        if_neg fun own => elsewhere own.2]

/-- An address that neither the inventory nor the incoming record knows stays unknown. -/
theorem Brought.owners_of_unknown
    (brought : Brought inventory record now usage merged created next) {ip : String}
    (absent : ip ∉ record.ips) (unowned : inventory.owners.get? ip = none)
    (unheld : ∀ key stored, inventory.devices.get? key = some stored → ip ∉ stored.record.ips)
    : next.owners.get? ip = none := by
  have outside : ip ∉ merged.ips := by
    intro member
    cases brought with
    | added _ stamped _ =>
        subst stamped
        exact absent member
    | @moved _ old stored _ _ taken stamped _ =>
        rw [stamped] at member
        rcases DeviceRecord.mem_ips_of_mem_merge member with held | incoming
        · exact unheld old stored (Inventory.take_eq_some taken).1 held
        · exact absent incoming
  rw [brought.owners_of_not_mem outside fun old _ => by simp [unowned], unowned]

/-- The number of devices tells whether the record came into a new device, unless another device
was displaced. Witness: only an entry under a free key adds a device.
-/
theorem Brought.size_eq_iff (brought : Brought inventory record now usage merged created next)
    : next.devices.size = (if created then inventory.devices.size + 1 else inventory.devices.size)
      ↔ ¬ Displaces inventory record merged := by
  cases brought with
  | @added key resolved _ keyed =>
      simp only [Inventory.put, SortedMap.size_insert, Displaces, keyed, resolved,
        Option.some.injEq, if_true]
      cases found : inventory.devices.get? key <;> simp [found]
  | @moved key old stored rest resolved taken _ keyed =>
      obtain ⟨present, erased, _⟩ := Inventory.take_eq_some taken
      have smaller := SortedMap.size_erase present
      simp only [Inventory.put, SortedMap.size_insert, Displaces, keyed, resolved, erased,
        SortedMap.get?_erase, Option.some.injEq]
      by_cases same : key = old
      · subst same
        simp [smaller]
      · cases found : inventory.devices.get? key with
        | none => simp [same, found, smaller]
        | some other =>
            have fewer : (inventory.devices.erase old).size ≠ inventory.devices.size := by omega
            simp [same, Ne.symm same, found, fewer]

end

-----------------------------------------------------------------------------------------
-- Merges that lose no device
-----------------------------------------------------------------------------------------

/-- The device that a record resolves to keeps its traffic, whatever its key is afterwards. -/
def CarriesUsage (inventory next : Inventory) (record merged : DeviceRecord) : Prop :=
  ∀ old stored,
    inventory.resolve record.macAddress record.ips = some old
    → inventory.devices.get? old = some stored
    → ∃ key later,
      merged.key? = some key
      ∧ next.devices.get? key = some later
      ∧ later.record = merged
      ∧ later.usage = stored.usage

/-- No device is lost: all but the one that the record resolves to stay as they are, that one
keeps its traffic, and the number of devices grows by one exactly if one was created.
-/
structure KeepsDevices (inventory next : Inventory) (record merged : DeviceRecord)
    (created : Bool) : Prop where
  others
    : ∀ key stored,
        inventory.devices.get? key = some stored
        → inventory.resolve record.macAddress record.ips ≠ some key
        → next.devices.get? key = some stored
  carried : CarriesUsage inventory next record merged
  size
    : next.devices.size = if created then inventory.devices.size + 1 else inventory.devices.size

section
variable {inventory next : Inventory} {record merged : DeviceRecord} {now : Int64}
  {usage : Tracker} {created : Bool}

theorem Brought.carriesUsage (brought : Brought inventory record now usage merged created next)
    : CarriesUsage inventory next record merged := by
  intro old stored resolved present
  obtain ⟨key, later, own, there, same, carried⟩ := brought.get?_key
  exact ⟨key, later, own, there, same, carried old stored resolved present⟩

/-- A device is lost exactly if one is displaced. Witness: a displaced device is missing from the
number of devices, and one that is not displaced stands under another key.
-/
theorem Brought.keepsDevices_iff (brought : Brought inventory record now usage merged created next)
    : KeepsDevices inventory next record merged created
      ↔ ¬ Displaces inventory record merged := by
  constructor
  · intro keeps
    exact brought.size_eq_iff.mp keeps.size
  · intro free
    refine ⟨fun key stored present unresolved => ?_, brought.carriesUsage,
      brought.size_eq_iff.mpr free⟩
    have elsewhere : merged.key? ≠ some key :=
      fun own => free ⟨key, stored, own, unresolved, present⟩
    rw [brought.get?_elsewhere unresolved elsewhere, present]

end

theorem merge_of_accepted {raw record : DeviceRecord} (store : Store) (instant : Int)
    (accepted : accept raw = .ok record)
    : ∃ outcome next usage,
        store.merge instant raw = (.ok outcome, next)
        ∧ Brought store.inventory record store.clock.read.1 usage outcome.record outcome.created
            next.inventory := by
  obtain ⟨merged, created, next, brought, result⟩ :=
    mergeWith_of_accepted (fun _ _ => ()) true instant store () accepted
  exact ⟨_, _, _, by rw [merge, result], brought⟩

/-- In every store that was empty once, a merge of an accepted record loses a device exactly if it
displaces one, which no record with a hardware address does and, among tidy records, none at all.
In any case devices under other keys stay and the resolved device keeps its traffic.
-/
theorem Run.merge_keepsDevices_iff {clock : Clock} {binInterval reach : Int} {steps : List Step}
    {store : Store} {raw record : DeviceRecord}
    (run : Run (.empty clock binInterval reach) steps store) (instant : Int)
    (accepted : accept raw = .ok record)
    : ∃ outcome next,
        store.merge instant raw = (.ok outcome, next)
        ∧ (KeepsDevices store.inventory next.inventory record outcome.record outcome.created
          ↔ ¬ Displaces store.inventory record outcome.record)
        ∧ (outcome.record.macAddress ≠ ""
          → ¬ Displaces store.inventory record outcome.record)
        ∧ ((∀ step ∈ steps, step.call.Admits DeviceRecord.Tidy)
          → record.Tidy
          → ¬ Displaces store.inventory record outcome.record)
        ∧ CarriesUsage store.inventory next.inventory record outcome.record
        ∧ ∀ key,
          store.inventory.resolve record.macAddress record.ips ≠ some key
          → outcome.record.key? ≠ some key
          → next.inventory.devices.get? key = store.inventory.devices.get? key := by
  obtain ⟨outcome, next, usage, result, brought⟩ := merge_of_accepted store instant accepted
  have keyed : store.inventory.Keyed :=
    run.kept kept_keyed (fun step _ raw _ record _ => trivial) (all_empty _)
  refine ⟨outcome, next, result, brought.keepsDevices_iff, ?named, ?tidy,
    brought.carriesUsage, fun key => brought.get?_elsewhere⟩
  case named => exact brought.not_displaces_of_named keyed
  case tidy =>
    intro admits tidy
    have consistent := run.consistent admits
    exact brought.not_displaces consistent.regular consistent.indexed tidy

/-- A device moves from its IP address to its hardware address, and the other one stays. -/
theorem Run.merge_keepsDevices_rekeyed
    : let sighted : DeviceRecord :=
        { DeviceRecord.blank with neigh := .singleton "10.0.0.5" default }
      let first := (empty (.fixed 1000) 0 0).step (.merge 0 sighted)
      let second := first.after.step (.merge 0 (.withMac "00:11:22:33:44:66"))
      ∃ outcome next,
        second.after.merge 0 { sighted with macAddress := "00:11:22:33:44:55" }
          = (.ok outcome, next)
        ∧ KeepsDevices second.after.inventory next.inventory
            { sighted with macAddress := "00:11:22:33:44:55" } outcome.record
            outcome.created := by
  intro sighted first second
  have run : Run (empty (.fixed 1000) 0 0) [first, second] second.after := .step (.step .done)
  have normal : Mac.normalize "00:11:22:33:44:55" = .ok "00:11:22:33:44:55" := rfl
  have accepted
      : accept { sighted with macAddress := "00:11:22:33:44:55" }
        = .ok { sighted with macAddress := "00:11:22:33:44:55" } :=
    accept_of_normal normal (by decide +kernel) (by decide +kernel)
  have admits : ∀ step ∈ [first, second], step.call.Admits DeviceRecord.Tidy := by
    intro step member
    apply Call.admits_tidy
    simp only [List.mem_cons, List.not_mem_nil, or_false] at member
    rcases member with rfl | rfl <;> decide +kernel
  have tidy : DeviceRecord.Tidy { sighted with macAddress := "00:11:22:33:44:55" } :=
    ⟨by decide +kernel, fun _ => rfl⟩
  obtain ⟨outcome, next, result, keeps, -, free, -⟩ := run.merge_keepsDevices_iff 0 accepted
  exact ⟨outcome, next, result, keeps.mpr (free admits tidy)⟩

/-- Two devices share an address: one is known by it, and the other by a lower address that it
named itself. When the latter names a higher one, it enters under the shared address, and the
device there is lost with its traffic.
-/
theorem Run.merge_losesDevice
    : let sighted : DeviceRecord :=
        { DeviceRecord.blank with neigh := .singleton "10.0.0.5" default }
      let first := (empty (.fixed 1000) 0 0).step (.merge 0 sighted)
      let counted := first.after.step (.addUsage 0 "10.0.0.5" ⟨7, 0⟩)
      let second :=
        counted.after.step (.merge 0 { DeviceRecord.blank with ipv4Address := "10.0.0.1" })
      let shared := second.after.step (.merge 0 { sighted with ipv4Address := "10.0.0.1" })
      Run (empty (.fixed 1000) 0 0) [first, counted, second, shared] shared.after
      ∧ accept { sighted with ipv4Address := "10.0.0.9" }
        = .ok { sighted with ipv4Address := "10.0.0.9" }
      ∧ ∃ outcome next,
        shared.after.merge 0 { sighted with ipv4Address := "10.0.0.9" } = (.ok outcome, next)
        ∧ ¬ KeepsDevices shared.after.inventory next.inventory
            { sighted with ipv4Address := "10.0.0.9" } outcome.record outcome.created := by
  intro sighted first counted second shared
  have run : Run (empty (.fixed 1000) 0 0) [first, counted, second, shared] shared.after :=
    .step (.step (.step (.step .done)))
  have accepted
      : accept { sighted with ipv4Address := "10.0.0.9" }
        = .ok { sighted with ipv4Address := "10.0.0.9" } :=
    accept_of_normal rfl rfl (by decide +kernel)
  obtain ⟨outcome, next, _, result, _⟩ := merge_of_accepted shared.after 0 accepted
  refine ⟨run, accepted, outcome, next, result, fun keeps => ?_⟩
  have lost
      : (shared.after.merge 0 { sighted with ipv4Address := "10.0.0.9" }).2.inventory.devices.size
        + 1
        = shared.after.inventory.devices.size := by
    decide +kernel
  rw [result] at lost
  dsimp only at lost
  have size := keeps.size
  split at size <;> omega

end NetInventory.Store
