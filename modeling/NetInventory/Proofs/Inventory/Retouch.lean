import NetInventory.Proofs.Inventory.Outline

/-! Changes in place: flows and traffic change while every device keeps its key and its addresses,
and the index stays as it is.
-/

namespace NetInventory

/-- Two devices that are known by the same addresses. -/
def DeviceRecord.SameAddresses (left right : DeviceRecord) : Prop :=
  left.macAddress = right.macAddress
  ∧ left.ipv4Address = right.ipv4Address
  ∧ left.ips = right.ips

/-- Flows are no part of the addresses. -/
theorem DeviceRecord.SameAddresses.of_withoutFlows {left right : DeviceRecord}
    (same : left.withoutFlows = right.withoutFlows)
    : left.SameAddresses right :=
  ⟨congrArg (·.macAddress) same, congrArg (·.ipv4Address) same, congrArg (·.ips) same⟩

namespace Inventory

/-- The same keys stand for devices of the same addresses, and the index is the same. -/
structure SameAddresses (inventory next : Inventory) : Prop where
  owners : next.owners = inventory.owners
  forward
    : ∀ {key stored},
        inventory.devices.get? key = some stored
        → ∃ later,
            next.devices.get? key = some later ∧ later.record.SameAddresses stored.record
  backward
    : ∀ {key later},
        next.devices.get? key = some later
        → ∃ stored,
            inventory.devices.get? key = some stored
            ∧ later.record.SameAddresses stored.record

/-- Inventories of one outline know the same addresses: flows and traffic say nothing about them. -/
theorem sameAddresses_of_outline {inventory next : Inventory}
    (same : next.outline = inventory.outline)
    : inventory.SameAddresses next where
  owners := owners_of_outline same
  forward found := by
    obtain ⟨later, present, records⟩ := get?_of_outline same.symm found
    exact ⟨later, present, .of_withoutFlows records.symm⟩
  backward found := by
    obtain ⟨stored, present, records⟩ := get?_of_outline same found
    exact ⟨stored, present, .of_withoutFlows records⟩

theorem sameAddresses_replaceConnections (inventory : Inventory)
    (connections : List Connection)
    : inventory.SameAddresses (inventory.replaceConnections connections).2 :=
  sameAddresses_of_outline (outline_replaceConnections inventory connections)

theorem sameAddresses_addUsage (inventory : Inventory) (ip : String) (amount : Amount)
    (now : Int)
    : inventory.SameAddresses (inventory.addUsage ip amount now).2 :=
  sameAddresses_of_outline (outline_addUsage inventory ip amount now)

theorem sameAddresses_trimUsage (inventory : Inventory) (period : Int)
    (instants : String → Int)
    : inventory.SameAddresses (inventory.trimUsage period instants) :=
  sameAddresses_of_outline (outline_trimUsage inventory period instants)

end Inventory

end NetInventory
