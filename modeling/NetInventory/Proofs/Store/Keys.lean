import NetInventory.Proofs.Store.Run

/-! Devices and their keys. Every device stands under its own key, whatever records come in. As long
as no IP address reads as a hardware address, the key that is a hardware address stands for the
device with that address.
-/

namespace NetInventory

/-- No IP address of the record reads as a hardware address. -/
def DeviceRecord.Plain (record : DeviceRecord) : Prop :=
  ∀ ip ∈ record.ips, Mac.isAddress ip = false

instance (record : DeviceRecord) : Decidable record.Plain :=
  inferInstanceAs (Decidable (∀ ip ∈ record.ips, Mac.isAddress ip = false))

theorem DeviceRecord.SameAddresses.key? {left right : DeviceRecord}
    (same : left.SameAddresses right)
    : left.key? = right.key? := by
  obtain ⟨mac, -, ips⟩ := same
  simp only [DeviceRecord.key?, mac, ips]

namespace Inventory

/-- A property that every key and the record under it have. -/
def All (Q : String → DeviceRecord → Prop) (inventory : Inventory) : Prop :=
  ∀ key stored, inventory.devices.get? key = some stored → Q key stored.record

/-- Every device stands under its own key. -/
def Keyed : Inventory → Prop :=
  All fun key record => record.key? = some key

/-- Hardware addresses read as such, and IP addresses do not. -/
def Plain : Inventory → Prop :=
  All fun _ record =>
    (record.macAddress = "" ∨ Mac.isAddress record.macAddress = true) ∧ record.Plain

/-- Every device stands under its own key, and no IP address can be taken for the key of a device
with a hardware address.
-/
structure Regular (inventory : Inventory) : Prop where
  keyed : inventory.Keyed
  plain : inventory.Plain

variable {inventory rest : Inventory} {key : String} {stored : StoredDevice}
  {Q : String → DeviceRecord → Prop}

theorem All.put (all : inventory.All Q) (fit : Q key stored.record)
    : (inventory.put key stored).All Q := by
  intro other later found
  rw [get?_put] at found
  split at found
  next same =>
    obtain rfl := Option.some.inj found
    exact same ▸ fit
  next => exact all _ _ found

theorem All.take (all : inventory.All Q) (taken : inventory.take key = some (stored, rest))
    : rest.All Q := by
  intro other later found
  rw [get?_take taken] at found
  split at found
  next => simp at found
  next => exact all _ _ found

/-- Taking devices out leaves the property to the others. -/
theorem All.takeAll (all : inventory.All Q) (keys : List String)
    : (inventory.takeAll keys).2.All Q :=
  takeAll_kept (fun taken all => all.take taken) keys all

/-- A property that does not look at flows is shared by inventories of one outline. -/
theorem All.of_outline {next : Inventory}
    (congr : ∀ {key left right}, left.withoutFlows = right.withoutFlows → Q key right → Q key left)
    (same : next.outline = inventory.outline) (all : inventory.All Q)
    : next.All Q := by
  intro key later found
  obtain ⟨stored, present, records⟩ := get?_of_outline same found
  exact congr records (all _ _ present)

theorem Keyed.key_of_mac (keyed : inventory.Keyed)
    (found : inventory.devices.get? key = some stored)
    (named : stored.record.macAddress ≠ "")
    : key = stored.record.macAddress :=
  Option.some.inj ((keyed _ _ found).symm.trans (DeviceRecord.key?_of_mac named))

/-- A key that reads as a hardware address stands for the device with that address: without one
the device would stand under an IP address.
-/
theorem Regular.mac_of_key (regular : inventory.Regular)
    (found : inventory.devices.get? key = some stored) (address : Mac.isAddress key = true)
    : stored.record.macAddress = key := by
  by_cases named : stored.record.macAddress = ""
  · have member := (DeviceRecord.key?_least named (regular.keyed _ _ found)).1
    have reads := (regular.plain _ _ found).2 key member
    simp [address] at reads
  · exact (regular.keyed.key_of_mac found named).symm

end Inventory

namespace Store

variable {admitted : DeviceRecord → Prop}

/-- It is enough that the given records have no IP address that reads as a hardware address. -/
theorem Call.admits_plain {call : Call} (plain : ∀ raw ∈ call.records, raw.Plain)
    : call.Admits DeviceRecord.Plain := by
  intro raw among record accepted
  rw [DeviceRecord.Plain, ips_of_accept accepted]
  exact plain raw among

/-- A property of all devices is kept if records that come in have it, merging keeps it and it
depends on the addresses alone. Witness: of the devices after a change, one may be new and the
others were there before.
-/
theorem kept_devices {Q : String → DeviceRecord → Prop}
    (added
      : ∀ {raw record now key},
          accept raw = .ok record
          → admitted record
          → ({ record with lastUpdate := now } : DeviceRecord).key? = some key
          → Q key { record with lastUpdate := now })
    (moved
      : ∀ {raw record now key old existing},
          accept raw = .ok record
          → admitted record
          → Q old existing
          → ({ existing.merge record with lastUpdate := now } : DeviceRecord).key? = some key
          → Q key { existing.merge record with lastUpdate := now })
    (congr : ∀ {key left right}, DeviceRecord.SameAddresses left right → Q key right → Q key left)
    : Kept admitted (Inventory.All Q) where
  bring accepted fit brought all := by
    cases brought with
    | added _ stamped own =>
        subst stamped
        exact all.put (added accepted fit own)
    | moved _ taken stamped own =>
        subst stamped
        exact (all.take taken).put
          (moved accepted fit (all _ _ (Inventory.take_eq_some taken).1) own)
  take taken all := all.take taken
  retouch same all other later found := by
    obtain ⟨stored, present, addresses⟩ := same.backward found
    exact congr addresses (all _ _ present)

/-- A device is put under the key of its record. -/
theorem kept_keyed : Kept admitted Inventory.Keyed := by
  refine kept_devices ?added ?moved ?congr
  case added => exact fun _ _ own => own
  case moved => exact fun _ _ _ own => own
  case congr => exact fun addresses own => addresses.key?.trans own

/-- The addresses of a stored record come from records that came in. -/
theorem kept_plain : Kept DeviceRecord.Plain Inventory.Plain := by
  refine kept_devices ?added ?moved ?congr
  case added =>
    intro raw record now key accepted fit _
    have mac := mac_of_accept accepted
    exact ⟨mac, fit⟩
  case moved =>
    intro raw record now key old existing accepted fit before _
    obtain ⟨oldMac, oldIps⟩ := before
    refine ⟨?_, fun ip member => ?_⟩
    · simp only [DeviceRecord.macAddress_merge]
      split
      · exact oldMac
      · exact mac_of_accept accepted
    · rcases DeviceRecord.mem_ips_of_mem_merge member with before | new
      · exact oldIps ip before
      · exact fit ip new
  case congr =>
    rintro key left right ⟨mac, -, ips⟩ old
    simp only [DeviceRecord.Plain, mac, ips]
    exact old

theorem kept_regular : Kept DeviceRecord.Plain Inventory.Regular := by
  have keyed : Kept DeviceRecord.Plain Inventory.Keyed := kept_keyed
  exact {
    bring := fun accepted fit brought regular =>
      ⟨keyed.bring accepted fit brought regular.keyed,
        kept_plain.bring accepted fit brought regular.plain⟩
    take := fun taken regular =>
      ⟨keyed.take taken regular.keyed, kept_plain.take taken regular.plain⟩
    retouch := fun same regular =>
      ⟨keyed.retouch same regular.keyed, kept_plain.retouch same regular.plain⟩
  }

/-- Without conditions the records of all devices are listed. -/
theorem mem_list_nil {store : Store} {record : DeviceRecord}
    : record ∈ store.list []
      ↔ ∃ key stored, store.inventory.devices.get? key = some stored ∧ stored.record = record := by
  simp only [list, Inventory.matching, List.all_nil, List.filter_true, List.mem_map, Prod.exists]
  constructor
  · rintro ⟨key, stored, member, same⟩
    exact ⟨key, stored, SortedMap.get?_eq_some_iff.mpr member, same⟩
  · rintro ⟨key, stored, found, same⟩
    exact ⟨key, stored, SortedMap.get?_eq_some_iff.mp found, same⟩

theorem all_empty (Q : String → DeviceRecord → Prop) : Inventory.empty.All Q :=
  fun key stored found => by simp [Inventory.empty] at found

theorem regular_empty : Inventory.empty.Regular :=
  ⟨all_empty _, all_empty _⟩

end Store

end NetInventory
