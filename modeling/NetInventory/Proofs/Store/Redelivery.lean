import NetInventory.Proofs.Device.Merging
import NetInventory.Proofs.Store.Displacement

/-! A record that is delivered twice. After the first delivery a device stands that owns all of its
addresses, that the record resolves to, and to which the record adds nothing; so the second delivery
takes the device out, puts it back where it was, and moves nothing but its time.
-/

namespace NetInventory

namespace Inventory

variable {inventory rest : Inventory} {record : DeviceRecord} {key : String}
  {stored later : StoredDevice}

/-- A device that owns its addresses leaves the index and enters it again without a trace: while it
was out other holders had its addresses, and it takes them back.
-/
theorem put_take (taken : inventory.take key = some (stored, rest))
    (owned : ∀ ip ∈ stored.record.ips, inventory.owners.get? ip = some key)
    (ips : later.record.ips = stored.record.ips)
    : rest.put key later
      = { inventory with devices := inventory.devices.insert key later } := by
  obtain ⟨-, -, handed⟩ := take_eq_some taken
  have owners : (rest.put key later).owners = inventory.owners := by
    refine SortedMap.ext_get? fun ip => ?_
    rw [get?_owners_put, ips]
    by_cases member : ip ∈ stored.record.ips
    · rw [if_pos member, owned ip member]
    · rw [if_neg member, handed, if_neg (mt And.left member)]
  calc
    rest.put key later = ⟨(rest.put key later).devices, (rest.put key later).owners⟩ := rfl
    _ = _ := by rw [devices_put_take taken, owners]

/-- The device under a key has taken a record in: it owns its addresses, and the record resolves to
it and adds nothing to it.
-/
structure Settled (inventory : Inventory) (record : DeviceRecord) (key : String)
    (stored : StoredDevice) : Prop where
  present : inventory.devices.get? key = some stored
  keyed : stored.record.key? = some key
  owned : ∀ ip ∈ stored.record.ips, inventory.owners.get? ip = some key
  resolved : inventory.resolve record.macAddress record.ips = some key
  absorbed
    : ∀ now : Int64,
        ({ stored.record.merge record with lastUpdate := now } : DeviceRecord)
          = { stored.record with lastUpdate := now }

end Inventory

namespace Store

variable {inventory next : Inventory} {record merged : DeviceRecord} {now : Int64}
  {usage : Tracker} {created : Bool} {key : String} {stored : StoredDevice}

/-- A stored record that the incoming one went into takes nothing from it a second time. -/
theorem Brought.absorbed (brought : Brought inventory record now usage merged created next)
    (time : Int64)
    : ({ merged.merge record with lastUpdate := time } : DeviceRecord)
      = { merged with lastUpdate := time } := by
  cases brought with
  | added _ stamped _ =>
      subst stamped
      change ({ record.merge record with lastUpdate := time } : DeviceRecord) = _
      rw [DeviceRecord.merge_self]
  | @moved _ _ stored _ _ _ stamped _ =>
      subst stamped
      change ({ (stored.record.merge record).merge record with lastUpdate := time }
        : DeviceRecord) = _
      rw [DeviceRecord.merge_merge_self]

/-- A record resolves to the device that it went into: by its hardware address, or else by its
first IP address, which that device owns.
-/
theorem Brought.settled (brought : Brought inventory record now usage merged created next)
    (nonempty : record.isEmpty = false)
    : ∃ key carried, next.Settled record key ⟨merged, carried⟩ := by
  obtain ⟨key, ⟨kept, carried⟩, keyed, present, same, -⟩ := brought.get?_key
  obtain rfl : kept = merged := same
  have owned : ∀ ip ∈ kept.ips, next.owners.get? ip = some key :=
    fun ip member => (brought.owners_of_mem member).trans keyed
  refine ⟨key, carried, present, keyed, owned, ?_, brought.absorbed⟩
  by_cases named : record.macAddress = ""
  · cases ips : record.ips with
    | nil => simp [DeviceRecord.isEmpty_iff.mpr ⟨named, ips⟩] at nonempty
    | cons first rest =>
        have member : first ∈ kept.ips := brought.mem_ips (ips ▸ List.mem_cons_self)
        rw [named]
        exact Inventory.resolve_of_owned rest (owned first member) present
  · obtain rfl := Option.some.inj ((brought.key_of_named named).symm.trans keyed)
    exact Inventory.resolve_of_known record.ips named present

/-- A record that comes into a device that has taken it in already stamps the device and leaves
everything else.
-/
theorem Brought.of_settled (settled : inventory.Settled record key stored)
    (brought : Brought inventory record now usage merged created next)
    : created = false
      ∧ merged = { stored.record with lastUpdate := now }
      ∧ next
        = { inventory with devices := inventory.devices.insert key ⟨merged, stored.usage⟩ } := by
  cases brought with
  | added resolved _ _ => simp [settled.resolved] at resolved
  | @moved enters old found rest resolved taken stamped keyed =>
      obtain rfl := Option.some.inj (settled.resolved.symm.trans resolved)
      obtain rfl := Option.some.inj
        (settled.present.symm.trans (Inventory.take_eq_some taken).1)
      rw [settled.absorbed] at stamped
      subst stamped
      obtain rfl := Option.some.inj (settled.keyed.symm.trans keyed)
      exact ⟨rfl, rfl, Inventory.put_take taken settled.owned rfl⟩

/-- A record that a store takes in, whatever the store holds, is merged again without a new device
and without an alert: it resolves to the record that was stored, and keys, records, traffic and the
index stay as they are but for the time of this record.
-/
theorem merge_again {raw record : DeviceRecord} (store : Store) (first second : Int)
    (accepted : accept raw = .ok record)
    : ∃ outcome next key usage,
        store.merge first raw = (.ok outcome, next)
        ∧ next.inventory.resolve record.macAddress record.ips = some key
        ∧ next.inventory.devices.get? key = some ⟨outcome.record, usage⟩
        ∧ let again := { outcome.record with lastUpdate := next.clock.read.1 }
          next.merge second raw
          = (
            .ok { record := again, alert := none, created := false },
            { next with
              inventory :=
                { next.inventory with
                  devices := next.inventory.devices.insert key ⟨again, usage⟩ }
              clock := next.clock.read.2 }
          ) := by
  obtain ⟨outcome, next, usage, result, brought⟩ := merge_of_accepted store first accepted
  obtain ⟨key, carried, settled⟩ := brought.settled (isEmpty_of_accept accepted)
  refine ⟨outcome, next, key, carried, result, settled.resolved, settled.present, ?_⟩
  obtain ⟨merged, created, last, brought, again⟩ :=
    mergeWith_of_accepted (fun _ _ => ()) true second next () accepted
  obtain ⟨rfl, rfl, rfl⟩ := brought.of_settled settled
  rw [merge, again, settled.resolved, Option.isSome_some, due?_of_accept accepted]
  rfl

/-- A device comes in twice whose address another device holds too, with a flow that occurs twice in
its record: the second time nothing but its time changes.
-/
theorem merge_again_shared
    : let sighted : DeviceRecord :=
        { DeviceRecord.withMac "00:11:22:33:44:55" with arp := .singleton "10.0.0.5" default }
      let shared : DeviceRecord :=
        { sighted with macAddress := "00:11:22:33:44:66", connections := [default, default] }
      let store := ((empty ⟨fun taken => .ofNat taken, 0⟩ 0 0).step (.merge 0 sighted)).after
      ∃ outcome next last,
        store.merge 0 shared = (.ok outcome, next)
        ∧ outcome.created = true
        ∧ next.merge 0 shared
          = (.ok ⟨{ outcome.record with lastUpdate := 2 }, none, false⟩, last)
        ∧ last.inventory.owners = next.inventory.owners := by
  intro sighted shared store
  have normal : Mac.normalize "00:11:22:33:44:66" = .ok "00:11:22:33:44:66" := rfl
  have accepted : accept shared = .ok shared :=
    accept_of_normal normal (by decide +kernel) (by decide +kernel)
  have new : (store.merge 0 shared).1.toOption.map (·.created) = some true := by decide +kernel
  have reading : (store.merge 0 shared).2.clock.read.1 = 2 := by decide +kernel
  obtain ⟨outcome, next, key, usage, result, -, -, again⟩ := merge_again store 0 0 accepted
  rw [result] at new reading
  dsimp only at reading again
  rw [reading] at again
  exact ⟨outcome, next, _, result, Option.some.inj new, again, rfl⟩

end Store

end NetInventory
