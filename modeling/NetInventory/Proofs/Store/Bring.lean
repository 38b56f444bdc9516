import NetInventory.Store.Basic
import NetInventory.Proofs.Inventory.Transfer
import NetInventory.Proofs.Mac

/-! One record taken in. An accepted record always comes in: as a device of its own, or into the
device it resolves to, which leaves its key and enters under the key of the merged record.
-/

namespace NetInventory.Store

-----------------------------------------------------------------------------------------
-- Acceptance
-----------------------------------------------------------------------------------------

/-- An accepted record has its hardware address in normal form and nothing else changed. -/
theorem accept_eq_ok {raw record : DeviceRecord} (accepted : accept raw = .ok record)
    : ∃ mac,
        Mac.normalize raw.macAddress = .ok mac
        ∧ record = { raw with macAddress := mac }
        ∧ Mac.isZero mac = false
        ∧ record.isEmpty = false := by
  unfold accept at accepted
  split at accepted
  next => simp at accepted
  next mac normal =>
    split at accepted
    next => simp at accepted
    next nonzero =>
      dsimp only at accepted
      split at accepted
      next => simp at accepted
      next nonempty =>
        obtain rfl := Except.ok.inj accepted
        exact ⟨mac, normal, rfl, Bool.of_not_eq_true nonzero, Bool.of_not_eq_true nonempty⟩

theorem mac_of_accept {raw record : DeviceRecord} (accepted : accept raw = .ok record)
    : record.macAddress = "" ∨ Mac.isAddress record.macAddress = true := by
  obtain ⟨mac, normal, rfl, _⟩ := accept_eq_ok accepted
  exact Mac.normalize_ok normal

/-- A record is accepted if its hardware address has a normal form and some address is left. -/
theorem accept_of_normalize {raw : DeviceRecord} {mac : String}
    (normal : Mac.normalize raw.macAddress = .ok mac) (nonzero : Mac.isZero mac = false)
    (nonempty : ({ raw with macAddress := mac } : DeviceRecord).isEmpty = false)
    : accept raw = .ok { raw with macAddress := mac } := by
  simp [accept, normal, nonzero, nonempty]

theorem accept_of_normal {raw : DeviceRecord}
    (normal : Mac.normalize raw.macAddress = .ok raw.macAddress)
    (nonzero : Mac.isZero raw.macAddress = false) (nonempty : raw.isEmpty = false)
    : accept raw = .ok raw :=
  accept_of_normalize normal nonzero nonempty

theorem ips_of_accept {raw record : DeviceRecord} (accepted : accept raw = .ok record)
    : record.ips = raw.ips := by
  obtain ⟨mac, _, rfl, _⟩ := accept_eq_ok accepted
  rfl

theorem isEmpty_of_accept {raw record : DeviceRecord} (accepted : accept raw = .ok record)
    : record.isEmpty = false := by
  obtain ⟨_, _, _, _, nonempty⟩ := accept_eq_ok accepted
  exact nonempty

/-- A record that was accepted is announced unless it resolved to a device. -/
theorem due?_of_accept {raw record : DeviceRecord} (accepted : accept raw = .ok record)
    (resolved : Bool)
    : Alert.due? record resolved = if resolved then none else some (.newDevice record) := by
  obtain ⟨mac, _, rfl, nonzero, nonempty⟩ := accept_eq_ok accepted
  cases resolved <;> simp [Alert.due?, nonzero, nonempty]

-----------------------------------------------------------------------------------------
-- Coming into the inventory
-----------------------------------------------------------------------------------------

/-- How a record comes into an inventory: what is stored, whether the device is new, and the
inventory afterwards.
-/
inductive Brought (inventory : Inventory) (record : DeviceRecord) (now : Int64) (usage : Tracker)
    : DeviceRecord → Bool → Inventory → Prop
  | added {merged key}
    (resolved : inventory.resolve record.macAddress record.ips = none)
    (stamped : merged = { record with lastUpdate := now })
    (keyed : merged.key? = some key)
    : Brought inventory record now usage merged true (inventory.put key ⟨merged, usage⟩)
  | moved {merged key old stored rest}
    (resolved : inventory.resolve record.macAddress record.ips = some old)
    (taken : inventory.take old = some (stored, rest))
    (stamped : merged = { stored.record.merge record with lastUpdate := now })
    (keyed : merged.key? = some key)
    : Brought inventory record now usage merged false (rest.put key ⟨merged, stored.usage⟩)

variable {inventory next : Inventory} {record merged : DeviceRecord} {now : Int64}
  {usage : Tracker} {created : Bool}

/-- What bringing a record in gives is one of the two ways, by cases on its resolution. -/
theorem bring_eq_ok (brought : bring inventory record now usage = .ok (merged, created, next))
    : Brought inventory record now usage merged created next := by
  unfold bring at brought
  dsimp only at brought
  cases resolved : inventory.resolve record.macAddress record.ips with
  | none =>
      simp only [resolved, Option.bind_none] at brought
      split at brought
      next => simp at brought
      next key keyed =>
        obtain ⟨rfl, rfl, rfl⟩ : _ ∧ _ ∧ _ := by simpa using brought
        exact .added resolved rfl keyed
  | some old =>
      obtain ⟨stored, present, _⟩ := Inventory.resolve_eq_some resolved
      obtain ⟨rest, taken⟩ := Inventory.exists_take present
      simp only [resolved, Option.bind_some, present, taken] at brought
      split at brought
      next => simp at brought
      next key keyed =>
        obtain ⟨rfl, rfl, rfl⟩ : _ ∧ _ ∧ _ := by simpa using brought
        exact .moved resolved taken rfl keyed

/-- A record that is not empty comes in: the record that is stored has a key. -/
theorem bring_total (inventory : Inventory) (now : Int64) (usage : Tracker)
    (nonempty : record.isEmpty = false)
    : ∃ merged created next,
        bring inventory record now usage = .ok (merged, created, next) := by
  unfold bring
  dsimp only
  cases resolved : inventory.resolve record.macAddress record.ips with
  | none =>
      have stamped : ({ record with lastUpdate := now } : DeviceRecord).isEmpty = false :=
        nonempty
      obtain ⟨key, keyed⟩ := DeviceRecord.exists_key stamped
      simp [keyed]
  | some old =>
      obtain ⟨stored, present, _⟩ := Inventory.resolve_eq_some resolved
      obtain ⟨rest, taken⟩ := Inventory.exists_take present
      have stamped
          : ({ stored.record.merge record with lastUpdate := now } : DeviceRecord).isEmpty
            = false :=
        DeviceRecord.isEmpty_merge nonempty
      obtain ⟨key, keyed⟩ := DeviceRecord.exists_key stamped
      simp [present, taken, keyed]

/-- The stored record has the incoming hardware address if there is one. -/
theorem Brought.mac_of_named (brought : Brought inventory record now usage merged created next)
    (named : record.macAddress ≠ "")
    : merged.macAddress = record.macAddress := by
  cases brought with
  | added _ stamped _ => rw [stamped]
  | moved _ _ stamped _ => simp [stamped, DeviceRecord.macAddress_merge, named]

/-- The record that was stored stands under the incoming hardware address. -/
theorem Brought.key_of_named (brought : Brought inventory record now usage merged created next)
    (named : record.macAddress ≠ "")
    : merged.key? = some record.macAddress := by
  have mac := brought.mac_of_named named
  rw [DeviceRecord.key?_of_mac (mac ▸ named), mac]

/-- A new device is one for a record that resolved to none. -/
theorem Brought.created_eq (brought : Brought inventory record now usage merged created next)
    : created = !(inventory.resolve record.macAddress record.ips).isSome := by
  cases brought with
  | added resolved _ _ => simp [resolved]
  | moved resolved _ _ _ => simp [resolved]

/-- Another device than the one that a record resolves to stands under the key of the merged
record.
-/
def Displaces (inventory : Inventory) (record merged : DeviceRecord) : Prop :=
  ∃ key stored,
    merged.key? = some key
    ∧ inventory.resolve record.macAddress record.ips ≠ some key
    ∧ inventory.devices.get? key = some stored

theorem get?_of_not_displaces_unresolved (free : ¬ Displaces inventory record merged)
    (resolved : inventory.resolve record.macAddress record.ips = none) {key : String}
    (keyed : merged.key? = some key)
    : inventory.devices.get? key = none :=
  Option.eq_none_iff_forall_ne_some.mpr fun other found =>
    free ⟨key, other, keyed, by simp [resolved], found⟩

/-- Once the device that a record resolves to is out, the key of the merged record is free. -/
theorem get?_of_not_displaces_taken (free : ¬ Displaces inventory record merged)
    {key old : String} {stored : StoredDevice} {rest : Inventory}
    (resolved : inventory.resolve record.macAddress record.ips = some old)
    (taken : inventory.take old = some (stored, rest)) (keyed : merged.key? = some key)
    : rest.devices.get? key = none := by
  rw [Inventory.get?_take taken]
  by_cases same : key = old
  · exact if_pos same
  · rw [if_neg same]
    refine Option.eq_none_iff_forall_ne_some.mpr fun other found => ?_
    exact free ⟨key, other, keyed, by simpa [resolved] using Ne.symm same, found⟩

-----------------------------------------------------------------------------------------
-- The store around it
-----------------------------------------------------------------------------------------

variable {σ : Type} (changed : DeviceRecord → σ → σ) (alerting : Bool) (instant : Int)
  (store : Store) (noted : σ)

/-- A refused record leaves the store and the notes as they were. -/
theorem mergeWith_of_refused {raw : DeviceRecord} {error : RecordError}
    (refused : accept raw = .error error)
    : store.mergeWith changed alerting instant raw noted = (.error error, store, noted) := by
  simp [mergeWith, refused]

/-- An accepted record comes in, the clock is read once, and the stored record is noted. -/
theorem mergeWith_of_accepted {raw record : DeviceRecord} (accepted : accept raw = .ok record)
    : ∃ merged created next,
        Brought store.inventory record store.clock.read.1
          (.start store.binInterval store.reach instant) merged created next
        ∧ store.mergeWith changed alerting instant raw noted
          = (
            .ok {
              record := merged
              alert :=
                if alerting then
                  Alert.due? record
                    (store.inventory.resolve record.macAddress record.ips).isSome
                else
                  none
              created
            },
            { store with inventory := next, clock := store.clock.read.2 },
            changed merged noted
          ) := by
  obtain ⟨merged, created, next, brought⟩ :=
    bring_total store.inventory store.clock.read.1
      (.start store.binInterval store.reach instant) (isEmpty_of_accept accepted)
  refine ⟨merged, created, next, bring_eq_ok brought, ?_⟩
  simp [mergeWith, accepted, readClock, brought]

end NetInventory.Store
