import NetInventory.Proofs.Inventory.Transfer

/-! Flows and traffic change in place. The index stays as it is, and so does what the records say
besides, each under its key.
-/

namespace NetInventory

/-- What a record says besides its flows. -/
def DeviceRecord.withoutFlows (record : DeviceRecord) : DeviceRecord :=
  { record with connections := [] }

namespace Inventory

/-- What an inventory says besides flows and traffic: the records under their keys and the index.
-/
def outline (inventory : Inventory) : SortedMap DeviceRecord × SortedMap String :=
  (inventory.devices.mapValues (·.record.withoutFlows), inventory.owners)

variable {inventory next : Inventory} {key : String} {stored later : StoredDevice}

-----------------------------------------------------------------------------------------
-- Changes that leave the outline
-----------------------------------------------------------------------------------------

/-- Changing every device where it stands leaves the outline if the change leaves the records. -/
theorem outline_mapEntries (inventory : Inventory) {f : String → StoredDevice → StoredDevice}
    (leaves : ∀ key stored, (f key stored).record.withoutFlows = stored.record.withoutFlows)
    : ({ inventory with devices := inventory.devices.mapEntries f } : Inventory).outline
      = inventory.outline := by
  refine Prod.ext (SortedMap.ext_get? fun key => ?_) rfl
  simp only [outline, SortedMap.get?_mapValues, SortedMap.get?_mapEntries, Option.map_map]
  congr 1
  exact funext (leaves key)

/-- Changing one device where it stands leaves the outline if the change leaves its record. -/
theorem outline_insert (found : inventory.devices.get? key = some stored)
    (leaves : later.record.withoutFlows = stored.record.withoutFlows)
    : ({ inventory with devices := inventory.devices.insert key later } : Inventory).outline
      = inventory.outline := by
  refine Prod.ext ?_ rfl
  simp only [outline, SortedMap.mapValues_insert]
  exact SortedMap.insert_of_get? (by rw [SortedMap.get?_mapValues, found, leaves, Option.map_some])

/-- Attaching flows leaves the outline, by induction on the flows. -/
theorem outline_attachAll (inventory : Inventory) (connections : List Connection)
    : (inventory.attachAll connections).2.outline = inventory.outline := by
  induction connections generalizing inventory with
  | nil => rfl
  | cons connection rest ih =>
      have first : (inventory.attach connection).2.outline = inventory.outline := by
        unfold attach
        split
        next => rfl
        next key stored owned => exact outline_insert (owner?_eq_some.mp owned).2 rfl
      exact (ih _).trans first

theorem outline_replaceConnections (inventory : Inventory) (connections : List Connection)
    : (inventory.replaceConnections connections).2.outline = inventory.outline := by
  have cleared : inventory.withoutConnections.outline = inventory.outline :=
    outline_mapEntries inventory fun _ _ => rfl
  exact (outline_attachAll _ connections).trans cleared

theorem outline_addUsage (inventory : Inventory) (ip : String) (amount : Amount) (now : Int)
    : (inventory.addUsage ip amount now).2.outline = inventory.outline := by
  unfold addUsage
  split
  next => rfl
  next key stored owned => exact outline_insert (owner?_eq_some.mp owned).2 rfl

theorem outline_trimUsage (inventory : Inventory) (period : Int) (instants : String → Int)
    : (inventory.trimUsage period instants).outline = inventory.outline :=
  outline_mapEntries inventory fun _ _ => rfl

-----------------------------------------------------------------------------------------
-- What inventories of one outline share
-----------------------------------------------------------------------------------------

theorem size_of_outline (same : next.outline = inventory.outline)
    : next.devices.size = inventory.devices.size := by
  have sizes := congrArg (fun outline => outline.1.size) same
  simpa [outline] using sizes

theorem owners_of_outline (same : next.outline = inventory.outline)
    : next.owners = inventory.owners :=
  congrArg Prod.snd same

/-- What stands under a key afterwards stood there before, but for its flows and traffic. -/
theorem get?_of_outline (same : next.outline = inventory.outline)
    (found : next.devices.get? key = some later)
    : ∃ stored,
        inventory.devices.get? key = some stored
        ∧ later.record.withoutFlows = stored.record.withoutFlows := by
  have lookups := congrArg (fun outline => outline.1.get? key) same
  simp only [outline, SortedMap.get?_mapValues, found, Option.map_some] at lookups
  obtain ⟨stored, present, records⟩ := Option.map_eq_some_iff.mp lookups.symm
  exact ⟨stored, present, records.symm⟩

end Inventory

end NetInventory
