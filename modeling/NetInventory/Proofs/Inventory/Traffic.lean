import NetInventory.Proofs.Inventory.Outline

/-! Flows and traffic go to the device that their address belongs to. After an update each device
has the flows of the clients that belong to it, in their order, and traffic is counted for the
owner of its address alone.
-/

namespace NetInventory

/-- The device with flows behind its own. -/
def StoredDevice.withFlows (stored : StoredDevice) (flows : List Connection) : StoredDevice :=
  { stored with
    record := { stored.record with connections := stored.record.connections ++ flows } }

namespace Inventory

variable {inventory : Inventory} {stored : StoredDevice} {key ip : String}

-----------------------------------------------------------------------------------------
-- Flows
-----------------------------------------------------------------------------------------

/-- The flows among some whose client belongs to a key. -/
def flowsOf (inventory : Inventory) (key : String) (flows : List Connection) : List Connection :=
  flows.filter fun flow => inventory.owners.get? flow.clientAddress = some key

theorem mem_flowsOf {flow : Connection} {flows : List Connection}
    : flow ∈ inventory.flowsOf key flows
      ↔ flow ∈ flows ∧ inventory.owners.get? flow.clientAddress = some key := by
  simp [flowsOf]

theorem owners_attach (inventory : Inventory) (flow : Connection)
    : (inventory.attach flow).2.owners = inventory.owners := by
  unfold attach
  split <;> rfl

/-- A flow is attached to the device that its client belongs to and to no other. -/
theorem get?_attach (inventory : Inventory) (flow : Connection) (key : String)
    : (inventory.attach flow).2.devices.get? key
      = (inventory.devices.get? key).map (·.withFlows (inventory.flowsOf key [flow])) := by
  have append (stored : StoredDevice) : stored.withFlows [] = stored := by
    simp [StoredDevice.withFlows]
  cases owned : inventory.owner? flow.clientAddress with
  | none =>
      -- An index entry that names no device gives the flow to none.
      cases present : inventory.devices.get? key with
      | none => simp [attach, owned, present]
      | some stored =>
          have other : inventory.owners.get? flow.clientAddress ≠ some key := by
            intro index
            simp [owner?_eq_some.mpr ⟨index, present⟩] at owned
          simp [attach, owned, present, flowsOf, other, append]
  | some found =>
      obtain ⟨owner, stored⟩ := found
      obtain ⟨index, present⟩ := owner?_eq_some.mp owned
      simp only [attach, owned, SortedMap.get?_insert]
      by_cases same : key = owner
      · subst key
        simp [present, flowsOf, index, StoredDevice.withFlows]
      · simp [same, Ne.symm same, flowsOf, index, append]

/-- Attaching flows appends to each device those of its clients, by induction on the flows. -/
theorem get?_attachAll (inventory : Inventory) (flows : List Connection) (key : String)
    : (inventory.attachAll flows).2.devices.get? key
      = (inventory.devices.get? key).map (·.withFlows (inventory.flowsOf key flows)) := by
  induction flows generalizing inventory with
  | nil => simp [attachAll, flowsOf, StoredDevice.withFlows]
  | cons flow rest ih =>
      have index : (inventory.attach flow).2.flowsOf key rest = inventory.flowsOf key rest := by
        simp only [flowsOf, owners_attach]
      have parts : inventory.flowsOf key (flow :: rest)
          = inventory.flowsOf key [flow] ++ inventory.flowsOf key rest :=
        List.filter_append [flow] rest
      simp only [attachAll]
      rw [ih, index, get?_attach, parts, Option.map_map]
      congr 1
      funext stored
      simp [StoredDevice.withFlows]

theorem get?_replaceConnections (inventory : Inventory) (flows : List Connection) (key : String)
    : (inventory.replaceConnections flows).2.devices.get? key
      = (inventory.devices.get? key).map fun stored =>
          { stored with
            record := { stored.record with connections := inventory.flowsOf key flows } } := by
  rw [replaceConnections, get?_attachAll, withoutConnections, SortedMap.get?_mapValues,
    Option.map_map]
  rfl

-----------------------------------------------------------------------------------------
-- Traffic
-----------------------------------------------------------------------------------------

/-- Traffic is counted for the owner of the address, and the other devices stay as they are. -/
theorem get?_addUsage (owned : inventory.owner? ip = some (key, stored)) (amount : Amount)
    (now : Int) (other : String)
    : (inventory.addUsage ip amount now).1 = true
      ∧ (inventory.addUsage ip amount now).2.devices.get? other
        = if other = key then some { stored with usage := stored.usage.add amount now }
          else inventory.devices.get? other := by
  simp only [addUsage, owned, SortedMap.get?_insert, and_self]

theorem addUsage_of_unowned (unowned : inventory.owner? ip = none) (amount : Amount) (now : Int)
    : inventory.addUsage ip amount now = (false, inventory) := by
  simp only [addUsage, unowned]

end Inventory

end NetInventory
