import NetInventory.Proofs.Store.AddressIndex
import NetInventory.Proofs.Store.Displacement

/-! What becomes of devices without hardware addresses when a record with one names their IP
addresses. The record goes into one device. If that is such a device, it moves under the hardware
address with its traffic; every other device that holds one of the addresses stays beside it.
-/

namespace NetInventory

/-- A device without a hardware address that holds one of the record's IP addresses. -/
structure Inventory.UnnamedHolder (inventory : Inventory) (record : DeviceRecord) (key : String)
    (stored : StoredDevice) : Prop where
  present : inventory.devices.get? key = some stored
  unnamed : stored.record.macAddress = ""
  shared : ∃ ip ∈ record.ips, ip ∈ stored.record.ips

theorem Inventory.exists_unnamedHolder {inventory : Inventory} {record : DeviceRecord}
    {key : String} (ip : String) (ips : List String)
    (found
      : (inventory.devices.get? key).map
          (fun stored => (stored.record.macAddress, stored.record.ips))
        = some ("", ips))
    (member : ip ∈ record.ips) (held : ip ∈ ips)
    : ∃ stored, inventory.UnnamedHolder record key stored := by
  obtain ⟨stored, present, parts⟩ := Option.map_eq_some_iff.mp found
  obtain ⟨unnamed, rfl⟩ := Prod.mk.inj parts
  exact ⟨stored, present, unnamed, ip, member, held⟩

/-- No two devices hold addresses of the record. -/
def Inventory.OneHolder (inventory : Inventory) (record : DeviceRecord) : Prop :=
  ∀ key stored other device,
    inventory.devices.get? key = some stored
    → inventory.devices.get? other = some device
    → (∃ ip ∈ record.ips, ip ∈ stored.record.ips)
    → (∃ ip ∈ record.ips, ip ∈ device.record.ips)
    → other = key

/-- A record with an unknown hardware address resolves to the device without one that alone holds
addresses of the record. Witness: whoever owns one of the addresses holds it.
-/
theorem Inventory.UnnamedHolder.resolve_eq {inventory : Inventory} {record : DeviceRecord}
    {key : String} {stored : StoredDevice} (holder : inventory.UnnamedHolder record key stored)
    (indexed : inventory.Indexed) (one : inventory.OneHolder record)
    (unknown : inventory.devices.get? record.macAddress = none)
    : inventory.resolve record.macAddress record.ips = some key := by
  obtain ⟨present, unnamed, shared⟩ := holder
  have owner_eq {ip owner : String} (member : ip ∈ record.ips)
      (owned : inventory.owners.get? ip = some owner)
      : owner = key := by
    obtain ⟨device, there, holds⟩ := indexed.sound owned
    exact one key stored owner device present there shared ⟨ip, member, holds⟩
  cases resolved : inventory.resolve record.macAddress record.ips with
  | none =>
      obtain ⟨ip, member, held⟩ := shared
      obtain ⟨owner, owned⟩ := indexed.complete present held
      obtain rfl := owner_eq member owned
      have passed := Inventory.owner?_of_resolve_eq_none resolved member
        (Inventory.owner?_eq_some.mpr ⟨owned, present⟩)
      exact absurd unnamed passed
  | some other =>
      obtain ⟨device, there, ⟨_, rfl⟩ | ⟨⟨ip, member, owned⟩, _⟩⟩ :=
        Inventory.resolve_eq_some resolved
      · simp [unknown] at there
      · rw [owner_eq member owned]

namespace Store

section
variable {inventory next : Inventory} {record merged : DeviceRecord} {now : Int64}
  {usage : Tracker} {created : Bool} {key : String} {stored : StoredDevice}

/-- Of the devices without a hardware address, those stay that the record does not resolve to. -/
theorem Brought.unnamedHolder_iff
    (brought : Brought inventory record now usage merged created next)
    (named : record.macAddress ≠ "")
    : next.UnnamedHolder record key stored
      ↔ inventory.UnnamedHolder record key stored
        ∧ inventory.resolve record.macAddress record.ips ≠ some key := by
  have keyed := brought.key_of_named named
  constructor
  · rintro ⟨present, unnamed, shared⟩
    have elsewhere : merged.key? ≠ some key := by
      intro own
      obtain ⟨_, later, enters, there, same, -⟩ := brought.get?_key
      obtain rfl := Option.some.inj (own.symm.trans enters)
      obtain rfl := Option.some.inj (present.symm.trans there)
      rw [same, brought.mac_of_named named] at unnamed
      exact named unnamed
    have unresolved : inventory.resolve record.macAddress record.ips ≠ some key := by
      intro resolved
      cases brought with
      | added absent _ _ => simp [absent] at resolved
      | @moved enters old _ rest found taken _ enter =>
          obtain rfl := Option.some.inj (found.symm.trans resolved)
          have apart : old ≠ enters := fun same => elsewhere (same ▸ enter)
          rw [Inventory.get?_put, if_neg apart, Inventory.get?_take taken, if_pos rfl] at present
          simp at present
    rw [brought.get?_elsewhere unresolved elsewhere] at present
    exact ⟨⟨present, unnamed, shared⟩, unresolved⟩
  · rintro ⟨⟨present, unnamed, shared⟩, unresolved⟩
    refine ⟨?_, unnamed, shared⟩
    rw [brought.get?_elsewhere unresolved, present]
    intro own
    obtain rfl := Option.some.inj (keyed.symm.trans own)
    exact unresolved (Inventory.resolve_of_known record.ips named present)

/-- A device without a hardware address that the record resolves to moves under the address of the
record with its traffic.
-/
theorem Brought.get?_mac (brought : Brought inventory record now usage merged created next)
    (named : record.macAddress ≠ "")
    (resolved : inventory.resolve record.macAddress record.ips = some key)
    (present : inventory.devices.get? key = some stored)
    : created = false
      ∧ next.devices.get? record.macAddress = some ⟨merged, stored.usage⟩ := by
  obtain ⟨enters, ⟨kept, carried⟩, own, there, same, usage⟩ := brought.get?_key
  obtain rfl : kept = merged := same
  obtain rfl : carried = stored.usage := usage key stored resolved present
  obtain rfl := Option.some.inj ((brought.key_of_named named).symm.trans own)
  exact ⟨by rw [brought.created_eq, resolved]; rfl, there⟩

end

/-- A record with a hardware address is merged into a store that was empty once. Afterwards devices
without one that hold its IP addresses stay exactly if the record does not resolve to them; so none
stays exactly if it resolves to each of them, which then moves under the hardware address with its
traffic. In a store of tidy records none stays if the address is unknown and there is one holder.
-/
theorem Run.merge_absorbs_iff {clock : Clock} {binInterval reach : Int} {steps : List Step}
    {store : Store} {raw record : DeviceRecord}
    (run : Run (.empty clock binInterval reach) steps store) (instant : Int)
    (accepted : accept raw = .ok record) (named : record.macAddress ≠ "")
    : ∃ outcome next,
        store.merge instant raw = (.ok outcome, next)
        ∧ (∀ key stored,
          next.inventory.UnnamedHolder record key stored
          ↔ store.inventory.UnnamedHolder record key stored
            ∧ store.inventory.resolve record.macAddress record.ips ≠ some key)
        ∧ ((∀ key stored, ¬ next.inventory.UnnamedHolder record key stored)
          ↔ ∀ key stored,
            store.inventory.UnnamedHolder record key stored
            → store.inventory.resolve record.macAddress record.ips = some key)
        ∧ (∀ key stored,
          store.inventory.UnnamedHolder record key stored
          → store.inventory.resolve record.macAddress record.ips = some key
          → outcome.created = false
            ∧ next.inventory.devices.get? record.macAddress
              = some ⟨outcome.record, stored.usage⟩)
        ∧ ((∀ step ∈ steps, step.call.Admits DeviceRecord.Tidy)
          → store.inventory.devices.get? record.macAddress = none
          → store.inventory.OneHolder record
          → ∀ key stored, ¬ next.inventory.UnnamedHolder record key stored) := by
  obtain ⟨outcome, next, usage, result, brought⟩ := merge_of_accepted store instant accepted
  have stays (key : String) (stored : StoredDevice)
      : next.inventory.UnnamedHolder record key stored
        ↔ store.inventory.UnnamedHolder record key stored
          ∧ store.inventory.resolve record.macAddress record.ips ≠ some key :=
    brought.unnamedHolder_iff named
  refine ⟨outcome, next, result, stays, ?none, ?moved, ?alone⟩
  case none => simp only [stays, not_and, not_not]
  case moved =>
    exact fun key stored holder resolved => brought.get?_mac named resolved holder.present
  case alone =>
    intro tidy unknown one key stored later
    obtain ⟨holder, unresolved⟩ := (stays key stored).mp later
    exact unresolved (holder.resolve_eq (run.consistent tidy).indexed one unknown)

/-- A device with traffic and without a hardware address moves under the one of a record. -/
theorem Run.merge_absorbs_counted
    : let sighted : DeviceRecord :=
        { DeviceRecord.blank with neigh := .singleton "10.0.0.5" default }
      let first := (empty (.fixed 1000) 0 0).step (.merge 0 sighted)
      let counted := first.after.step (.addUsage 0 "10.0.0.5" ⟨7, 0⟩)
      let named := { sighted with macAddress := "00:11:22:33:44:55" }
      ∃ stored outcome next,
        counted.after.inventory.devices.get? "10.0.0.5" = some stored
        ∧ counted.after.merge 0 named = (.ok outcome, next)
        ∧ outcome.created = false
        ∧ next.inventory.devices.get? "00:11:22:33:44:55" = some ⟨outcome.record, stored.usage⟩
        ∧ ∀ key stored, ¬ next.inventory.UnnamedHolder named key stored := by
  intro sighted first counted named
  have run : Run (empty (.fixed 1000) 0 0) [first, counted] counted.after := .step (.step .done)
  have normal : Mac.normalize "00:11:22:33:44:55" = .ok "00:11:22:33:44:55" := rfl
  have accepted : accept named = .ok named :=
    accept_of_normal normal (by decide +kernel) (by decide +kernel)
  have tidy : ∀ step ∈ [first, counted], step.call.Admits DeviceRecord.Tidy := by
    intro step member
    apply Call.admits_tidy
    simp only [List.mem_cons, List.not_mem_nil, or_false] at member
    rcases member with rfl | rfl <;> decide +kernel
  have only : counted.after.inventory.devices.keys = ["10.0.0.5"] := by decide +kernel
  have one : counted.after.inventory.OneHolder named := by
    intro key stored other device present there _ _
    have listed := SortedMap.mem_keys_iff.mpr ⟨stored, present⟩
    have among := SortedMap.mem_keys_iff.mpr ⟨device, there⟩
    rw [only, List.mem_singleton] at listed among
    rw [listed, among]
  obtain ⟨stored, holder⟩ : ∃ stored,
      counted.after.inventory.UnnamedHolder named "10.0.0.5" stored :=
    Inventory.exists_unnamedHolder "10.0.0.5" ["10.0.0.5"]
      (by decide +kernel) (by decide +kernel) List.mem_cons_self
  have unknown : counted.after.inventory.devices.get? named.macAddress = none := by
    decide +kernel
  obtain ⟨outcome, next, result, -, none, moved, alone⟩ :=
    run.merge_absorbs_iff 0 accepted (by decide)
  have gone := alone tidy unknown one
  obtain ⟨old, there⟩ := moved "10.0.0.5" stored holder (none.mp gone "10.0.0.5" stored holder)
  exact ⟨stored, outcome, next, holder.present, result, old, there, gone⟩

/-- A device without a hardware address stays beside the one that names its address if that one is
known by another address already.
-/
theorem Run.merge_leavesUnnamed
    : let sighted : DeviceRecord :=
        { DeviceRecord.blank with neigh := .singleton "10.0.0.5" default }
      let known : DeviceRecord :=
        { DeviceRecord.withMac "00:11:22:33:44:55" with neigh := .singleton "10.0.0.1" default }
      let named := { sighted with macAddress := "00:11:22:33:44:55" }
      let first := (empty (.fixed 1000) 0 0).step (.merge 0 sighted)
      let second := first.after.step (.merge 0 known)
      Run (empty (.fixed 1000) 0 0) [first, second] second.after
      ∧ accept named = .ok named
      ∧ ∃ outcome next key stored,
        second.after.merge 0 named = (.ok outcome, next)
        ∧ next.inventory.UnnamedHolder named key stored := by
  intro sighted known named first second
  have normal : Mac.normalize "00:11:22:33:44:55" = .ok "00:11:22:33:44:55" := rfl
  have accepted : accept named = .ok named :=
    accept_of_normal normal (by decide +kernel) (by decide +kernel)
  refine ⟨.step (.step .done), accepted, ?_⟩
  obtain ⟨outcome, next, _, result, _⟩ := merge_of_accepted second.after 0 accepted
  obtain ⟨stored, holder⟩ : ∃ stored,
      (second.after.merge 0 named).2.inventory.UnnamedHolder named "10.0.0.5" stored :=
    Inventory.exists_unnamedHolder "10.0.0.5" ["10.0.0.5"]
      (by decide +kernel) (by decide +kernel) List.mem_cons_self
  rw [result] at holder
  exact ⟨outcome, next, "10.0.0.5", stored, result, holder⟩

end Store

end NetInventory
