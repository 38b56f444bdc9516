import NetInventory.Proofs.Store.Displacement

/-! Addresses that a record does not name. A device that the record goes into takes back every
address that it has been seen at, also those that belong to other devices by then; an address that
it has not been seen at stays with its owner.
-/

namespace NetInventory

namespace Inventory

/-- A device owns an address that the record does not name, and the record does not speak of the
device.
-/
structure Bystander (inventory : Inventory) (record : DeviceRecord) (ip key : String)
    (stored : StoredDevice) : Prop where
  unmentioned : ip ∉ record.ips
  owned : inventory.owner? ip = some (key, stored)
  apart : inventory.resolve record.macAddress record.ips ≠ some key

/-- The device that the record resolves to keeps an address: collectors saw it there, or it named
the address itself and the record names no other.
-/
def Remembers (inventory : Inventory) (record : DeviceRecord) (ip : String) : Prop :=
  ∃ old device,
    inventory.resolve record.macAddress record.ips = some old
    ∧ inventory.devices.get? old = some device
    ∧ (ip ∈ device.record.sightedIps
      ∨ (record.ipv4Address = ""
        ∧ device.record.ipv4Address ≠ ""
        ∧ ip = device.record.ipv4Address))

variable {inventory : Inventory} {record : DeviceRecord} {ip key old : String}
  {stored device : StoredDevice}

theorem Bystander.unresolved (bystander : inventory.Bystander record ip key stored) (old : String)
    (resolved : inventory.resolve record.macAddress record.ips = some old)
    : inventory.owners.get? ip ≠ some old := by
  intro owned
  obtain rfl := Option.some.inj ((owner?_eq_some.mp bystander.owned).1.symm.trans owned)
  exact bystander.apart resolved

/-- The owner that the index gives for an address that the record does not name is a bystander if
the record resolves to another key.
-/
theorem exists_bystander (unmentioned : ip ∉ record.ips)
    (owned : (inventory.owner? ip).map (·.1) = some key)
    (apart : inventory.resolve record.macAddress record.ips ≠ some key)
    : ∃ stored, inventory.Bystander record ip key stored := by
  obtain ⟨⟨owner, stored⟩, found, rfl⟩ := Option.map_eq_some_iff.mp owned
  exact ⟨stored, unmentioned, found, apart⟩

theorem remembers_iff (resolved : inventory.resolve record.macAddress record.ips = some old)
    (present : inventory.devices.get? old = some device)
    : inventory.Remembers record ip
      ↔ ip ∈ device.record.sightedIps
        ∨ (record.ipv4Address = ""
          ∧ device.record.ipv4Address ≠ ""
          ∧ ip = device.record.ipv4Address) := by
  constructor
  · rintro ⟨other, found, there, holds, kept⟩
    obtain rfl := Option.some.inj (resolved.symm.trans there)
    obtain rfl := Option.some.inj (present.symm.trans holds)
    exact kept
  · exact fun kept => ⟨old, device, resolved, present, kept⟩

end Inventory

namespace Store

section
variable {inventory next : Inventory} {record merged : DeviceRecord} {now : Int64}
  {usage : Tracker} {created : Bool} {ip key : String} {stored : StoredDevice}

/-- An address that the record does not name is one of the merged record if the device keeps it. -/
theorem Brought.mem_ips_iff_remembers
    (brought : Brought inventory record now usage merged created next)
    (unmentioned : ip ∉ record.ips)
    : ip ∈ merged.ips ↔ inventory.Remembers record ip := by
  cases brought with
  | added resolved stamped _ =>
      subst stamped
      refine iff_of_false unmentioned ?_
      rintro ⟨old, device, found, -⟩
      simp [resolved] at found
  | @moved _ old device _ resolved taken stamped _ =>
      have present := (Inventory.take_eq_some taken).1
      have kept : ip ∈ merged.ips ↔ ip ∈ (device.record.merge record).ips := by
        rw [stamped]
        rfl
      rw [kept, DeviceRecord.mem_ips_merge, Inventory.remembers_iff resolved present]
      exact or_iff_right unmentioned

/-- Whatever the index says of an address of the merged record leads to that record. -/
theorem Brought.byIp?_of_mem
    (brought : Brought inventory record now usage merged created next) (member : ip ∈ merged.ips)
    : (next.byIp? ip).map (·.record) = some merged := by
  obtain ⟨enters, later, keyed, there, rfl, -⟩ := brought.get?_key
  have owned := (brought.owners_of_mem member).trans keyed
  simp [Inventory.byIp?, Inventory.owner?_eq_some.mpr ⟨owned, there⟩]

/-- A bystander that is not displaced stays the owner of an address that the merged record does not
have.
-/
theorem Brought.owner?_of_bystander
    (brought : Brought inventory record now usage merged created next)
    (bystander : inventory.Bystander record ip key stored) (absent : ip ∉ merged.ips)
    (elsewhere : merged.key? ≠ some key)
    : next.owner? ip = some (key, stored) := by
  obtain ⟨owned, present⟩ := Inventory.owner?_eq_some.mp bystander.owned
  refine Inventory.owner?_eq_some.mpr ⟨?_, ?_⟩
  · rw [brought.owners_of_not_mem absent bystander.unresolved, owned]
  · rw [brought.get?_elsewhere bystander.apart elsewhere, present]

/-- Where a bystander is displaced the merged record is found at its addresses. -/
theorem Brought.byIp?_of_displaced
    (brought : Brought inventory record now usage merged created next)
    (bystander : inventory.Bystander record ip key stored) (own : merged.key? = some key)
    : (next.byIp? ip).map (·.record) = some merged := by
  by_cases member : ip ∈ merged.ips
  · exact brought.byIp?_of_mem member
  · obtain ⟨owned, -⟩ := Inventory.owner?_eq_some.mp bystander.owned
    have stays := (brought.owners_of_not_mem member bystander.unresolved).trans owned
    obtain ⟨enters, later, keyed, there, rfl, -⟩ := brought.get?_key
    obtain rfl := Option.some.inj (own.symm.trans keyed)
    simp [Inventory.byIp?, Inventory.owner?_eq_some.mpr ⟨stays, there⟩]

end

/-- A record is merged into a store that was empty once, and another device owns an address that the
record does not name. Unless that device is displaced, its record is found at the address exactly if
the device that the record goes into has not kept the address; and otherwise the merged record is.
No device is displaced by a record with a hardware address, nor in a store of tidy records.
-/
theorem Run.merge_keepsOwner_iff {clock : Clock} {binInterval reach : Int} {steps : List Step}
    {store : Store} {raw record : DeviceRecord}
    (run : Run (.empty clock binInterval reach) steps store) (instant : Int)
    (accepted : accept raw = .ok record)
    : ∃ outcome next,
        store.merge instant raw = (.ok outcome, next)
        ∧ ∀ ip key stored,
          store.inventory.Bystander record ip key stored
          → (outcome.record.key? ≠ some key
            → (next.byIp? ip = some stored.record
                ↔ ¬ store.inventory.Remembers record ip)
              ∧ (next.byIp? ip = some stored.record
                → next.inventory.owner? ip = some (key, stored)))
            ∧ (store.inventory.Remembers record ip ∨ outcome.record.key? = some key
              → next.byIp? ip = some outcome.record)
            ∧ (outcome.record.macAddress ≠ "" → outcome.record.key? ≠ some key)
            ∧ ((∀ step ∈ steps, step.call.Admits DeviceRecord.Tidy)
              → record.Tidy
              → outcome.record.key? ≠ some key) := by
  obtain ⟨outcome, next, usage, result, brought⟩ := merge_of_accepted store instant accepted
  have keyed : store.inventory.Keyed :=
    run.kept kept_keyed (fun step _ raw _ record _ => trivial) (all_empty _)
  refine ⟨outcome, next, result, fun ip key stored bystander => ?_⟩
  obtain ⟨-, present⟩ := Inventory.owner?_eq_some.mp bystander.owned
  have kept := brought.mem_ips_iff_remembers bystander.unmentioned
  have displaced (own : outcome.record.key? = some key)
      : Displaces store.inventory record outcome.record :=
    ⟨key, stored, own, bystander.apart, present⟩
  have merged (lost : store.inventory.Remembers record ip ∨ outcome.record.key? = some key)
      : next.byIp? ip = some outcome.record := by
    rcases lost with remembers | own
    · exact brought.byIp?_of_mem (kept.mpr remembers)
    · exact brought.byIp?_of_displaced bystander own
  refine ⟨fun elsewhere => ?_, merged, fun named own => ?_, fun admits tidy own => ?_⟩
  · have stays (forgets : ¬ store.inventory.Remembers record ip)
        : next.inventory.owner? ip = some (key, stored) :=
      brought.owner?_of_bystander bystander (mt kept.mp forgets) elsewhere
    have forgets (found : next.byIp? ip = some stored.record)
        : ¬ store.inventory.Remembers record ip := by
      intro remembers
      -- The two records have different keys.
      have same := Option.some.inj ((merged (.inl remembers)).symm.trans found)
      exact elsewhere (same ▸ keyed key stored present)
    refine ⟨⟨forgets, fun unkept => ?_⟩, fun found => stays (forgets found)⟩
    simp [byIp?, Inventory.byIp?, stays unkept]
  · exact brought.not_displaces_of_named keyed named (displaced own)
  · have consistent := run.consistent admits
    exact brought.not_displaces consistent.regular consistent.indexed tidy (displaced own)

/-- A device with an address of its own keeps it while another one is seen at a third address. -/
theorem Run.merge_keepsOwner_apart
    : let first :=
        (empty (.fixed 1000) 0 0).step
          (.merge 0
            { DeviceRecord.withMac "00:11:22:33:44:55" with
              neigh := .singleton "10.0.0.5" default })
      let second :=
        first.after.step
          (.merge 0
            { DeviceRecord.withMac "00:11:22:33:44:66" with
              neigh := .singleton "10.0.0.6" default })
      let moved : DeviceRecord :=
        { DeviceRecord.withMac "00:11:22:33:44:55" with
          neigh := .singleton "10.0.0.7" default }
      ∃ stored outcome next,
        second.after.merge 0 moved = (.ok outcome, next)
        ∧ second.after.inventory.Bystander moved "10.0.0.6" "00:11:22:33:44:66" stored
        ∧ next.byIp? "10.0.0.6" = some stored.record := by
  intro first second moved
  have run : Run (empty (.fixed 1000) 0 0) [first, second] second.after := .step (.step .done)
  have normal : Mac.normalize "00:11:22:33:44:55" = .ok "00:11:22:33:44:55" := rfl
  have accepted : accept moved = .ok moved :=
    accept_of_normal normal (by decide +kernel) (by decide +kernel)
  obtain ⟨stored, bystander⟩ : ∃ stored,
      second.after.inventory.Bystander moved "10.0.0.6" "00:11:22:33:44:66" stored :=
    Inventory.exists_bystander (by decide +kernel) (by decide +kernel) (by decide +kernel)
  have unseen :
      (second.after.inventory.devices.get? "00:11:22:33:44:55").map (·.record.ips)
      = some ["10.0.0.5"] := by
    decide +kernel
  obtain ⟨device, present, ips⟩ := Option.map_eq_some_iff.mp unseen
  have forgets : ¬ second.after.inventory.Remembers moved "10.0.0.6" := by
    rw [Inventory.remembers_iff (by decide +kernel) present]
    intro kept
    have holds := DeviceRecord.mem_ips.mpr (kept.imp_right And.right)
    simp [ips] at holds
  have key : (second.after.merge 0 moved).1.toOption.bind (·.record.key?)
      = some "00:11:22:33:44:55" := by
    decide +kernel
  obtain ⟨outcome, next, result, keeps⟩ := run.merge_keepsOwner_iff 0 accepted
  rw [result] at key
  have own : outcome.record.key? = some "00:11:22:33:44:55" := key
  have elsewhere : outcome.record.key? ≠ some "00:11:22:33:44:66" := by simp [own]
  obtain ⟨found, -⟩ := (keeps _ _ stored bystander).1 elsewhere
  exact ⟨stored, outcome, next, result, bystander, found.mpr forgets⟩

/-- A device that is merged with a record without addresses takes back an address at which another
device has been seen since.
-/
theorem Run.merge_takesUnmentioned
    : let first :=
        (empty (.fixed 1000) 0 0).step
          (.merge 0
            { DeviceRecord.withMac "00:11:22:33:44:55" with
              neigh := .singleton "10.0.0.5" default })
      let second :=
        first.after.step
          (.merge 0
            { DeviceRecord.withMac "00:11:22:33:44:66" with
              neigh := .singleton "10.0.0.5" default })
      let quiet := DeviceRecord.withMac "00:11:22:33:44:55"
      Run (empty (.fixed 1000) 0 0) [first, second] second.after
      ∧ accept quiet = .ok quiet
      ∧ ∃ stored outcome next,
        second.after.inventory.Bystander quiet "10.0.0.5" "00:11:22:33:44:66" stored
        ∧ second.after.merge 0 quiet = (.ok outcome, next)
        ∧ next.byIp? "10.0.0.5" = some outcome.record
        ∧ outcome.record ≠ stored.record := by
  intro first second quiet
  have normal : Mac.normalize "00:11:22:33:44:55" = .ok "00:11:22:33:44:55" := rfl
  have accepted : accept quiet = .ok quiet :=
    accept_of_normal normal (by decide +kernel) (by decide +kernel)
  have run : Run (empty (.fixed 1000) 0 0) [first, second] second.after := .step (.step .done)
  obtain ⟨stored, bystander⟩ : ∃ stored,
      second.after.inventory.Bystander quiet "10.0.0.5" "00:11:22:33:44:66" stored :=
    Inventory.exists_bystander (by decide +kernel) (by decide +kernel) (by decide +kernel)
  obtain ⟨outcome, next, _, result, _⟩ := merge_of_accepted second.after 0 accepted
  have before : (second.after.byIp? "10.0.0.5").map (·.macAddress) = some "00:11:22:33:44:66" := by
    decide +kernel
  have later : (second.after.merge 0 quiet).2.byIp? "10.0.0.5"
      = (second.after.merge 0 quiet).1.toOption.map (·.record) := by
    decide +kernel
  have mac : (second.after.merge 0 quiet).1.toOption.map (·.record.macAddress)
      = some "00:11:22:33:44:55" := by
    decide +kernel
  rw [result] at later mac
  refine ⟨run, accepted, stored, outcome, next, bystander, result, later, fun same => ?_⟩
  simp [byIp?, Inventory.byIp?, bystander.owned, ← same] at before
  simp [Except.toOption, before] at mac

end Store

end NetInventory
