import NetInventory.Proofs.Store.Keys

/-! The index of IP addresses. As long as records without a hardware address name no IP address of
their own, no device ever enters under the key of another one, and so the index stays sound and
complete: it leads from every address of a device to a device that holds it, and nowhere else.
-/

namespace NetInventory

/-- No IP address of the record reads as a hardware address, and without a hardware address it has
sighted IP addresses only.
-/
structure DeviceRecord.Tidy (record : DeviceRecord) : Prop where
  plain : record.Plain
  sighted : record.macAddress = "" → record.ipv4Address = ""

namespace Inventory

/-- The index leads to devices that hold the addresses, and every address of a device is in it. -/
structure Indexed (inventory : Inventory) : Prop where
  sound
    : ∀ {ip key},
        inventory.owners.get? ip = some key
        → ∃ stored, inventory.devices.get? key = some stored ∧ ip ∈ stored.record.ips
  complete
    : ∀ {key stored ip},
        inventory.devices.get? key = some stored
        → ip ∈ stored.record.ips
        → ∃ owner, inventory.owners.get? ip = some owner

variable {inventory rest : Inventory} {key : String} {stored : StoredDevice}

theorem indexed_empty : Inventory.empty.Indexed :=
  ⟨fun found => by simp [empty] at found, fun found => by simp [empty] at found⟩

/-- A device that enters where no other stands is found at all of its addresses. -/
theorem Indexed.put (indexed : inventory.Indexed) (free : inventory.devices.get? key = none)
    (stored : StoredDevice)
    : (inventory.put key stored).Indexed := by
  refine ⟨?sound, ?complete⟩
  case sound =>
    intro ip owner owned
    rw [get?_owners_put] at owned
    rw [get?_put]
    split at owned
    next member =>
      obtain rfl := Option.some.inj owned
      exact ⟨stored, if_pos rfl, member⟩
    next =>
      obtain ⟨other, present, holds⟩ := indexed.sound owned
      have elsewhere : owner ≠ key := fun same => by simp [same, free] at present
      exact ⟨other, by rw [if_neg elsewhere, present], holds⟩
  case complete =>
    intro other device ip found member
    rw [get?_put] at found
    rw [get?_owners_put]
    by_cases own : ip ∈ stored.record.ips
    · exact ⟨key, if_pos own⟩
    · rw [if_neg own]
      split at found
      next =>
        obtain rfl := Option.some.inj found
        exact absurd member own
      next => exact indexed.complete found member

/-- When a device leaves, each of its addresses goes to another holder or out of the index. -/
theorem Indexed.take (indexed : inventory.Indexed)
    (taken : inventory.take key = some (stored, rest))
    : rest.Indexed := by
  obtain ⟨present, _, owners⟩ := take_eq_some taken
  refine ⟨?sound, ?complete⟩
  case sound =>
    intro ip owner owned
    rw [owners] at owned
    split at owned
    next => exact holder?_eq_some owned
    next kept =>
      obtain ⟨device, found, holds⟩ := indexed.sound owned
      have elsewhere : owner ≠ key := by
        rintro rfl
        obtain rfl := Option.some.inj (present.symm.trans found)
        exact kept ⟨holds, owned⟩
      exact ⟨device, by rw [get?_take taken, if_neg elsewhere, found], holds⟩
  case complete =>
    intro other device ip found member
    rw [owners]
    split
    next => exact exists_holder? found member
    next =>
      rw [get?_take taken] at found
      split at found
      next => simp at found
      next => exact indexed.complete found member

theorem Indexed.retouch {next : Inventory} (indexed : inventory.Indexed)
    (same : inventory.SameAddresses next)
    : next.Indexed := by
  refine ⟨?sound, ?complete⟩
  case sound =>
    intro ip key owned
    obtain ⟨stored, present, holds⟩ := indexed.sound (same.owners ▸ owned)
    obtain ⟨later, stays, _, _, ips⟩ := same.forward present
    exact ⟨later, stays, ips ▸ holds⟩
  case complete =>
    intro key later ip found member
    obtain ⟨stored, present, _, _, ips⟩ := same.backward found
    rw [same.owners]
    exact indexed.complete present (ips ▸ member)

/-- The device with an IP address as its key holds that address, and no device with a hardware
address stands under it.
-/
theorem Regular.holds_key (regular : inventory.Regular)
    (found : inventory.devices.get? key = some stored) (plain : Mac.isAddress key = false)
    : key ∈ stored.record.ips := by
  by_cases unnamed : stored.record.macAddress = ""
  · exact (DeviceRecord.key?_least unnamed (regular.keyed _ _ found)).1
  · have address := (regular.plain _ _ found).1.resolve_left unnamed
    simp [← regular.keyed.key_of_mac found unnamed, plain] at address

/-- A record without a hardware address whose first IP address is the key of a device resolves to
a device that holds this address.
-/
theorem Indexed.resolve_first (indexed : inventory.Indexed) (regular : inventory.Regular)
    (found : inventory.devices.get? key = some stored) (plain : Mac.isAddress key = false)
    (ips : List String)
    : ∃ owner device,
        inventory.resolve "" (key :: ips) = some owner
        ∧ inventory.devices.get? owner = some device
        ∧ key ∈ device.record.ips := by
  obtain ⟨owner, owned⟩ := indexed.complete found (regular.holds_key found plain)
  obtain ⟨device, present, holds⟩ := indexed.sound owned
  exact ⟨owner, device, resolve_of_owned ips owned present, present, holds⟩

end Inventory

namespace Store

section
variable {inventory next : Inventory} {record merged : DeviceRecord} {now : Int64}
  {usage : Tracker} {created : Bool}

/-- A record that brings a hardware address resolves to the device there. -/
theorem Brought.not_displaces_of_incoming
    (brought : Brought inventory record now usage merged created next)
    (incoming : record.macAddress ≠ "")
    : ¬ Displaces inventory record merged := by
  rintro ⟨key, other, own, elsewhere, found⟩
  obtain rfl := Option.some.inj ((brought.key_of_named incoming).symm.trans own)
  exact elsewhere (Inventory.resolve_of_known record.ips incoming found)

/-- No other device stands under the hardware address of a merged record: either the incoming record
brings the address, or the device it comes into had it already.
-/
theorem Brought.not_displaces_of_named
    (brought : Brought inventory record now usage merged created next)
    (keyed : inventory.Keyed) (named : merged.macAddress ≠ "")
    : ¬ Displaces inventory record merged := by
  by_cases incoming : record.macAddress = ""
  · rintro ⟨key, other, own, elsewhere, found⟩
    obtain rfl := Option.some.inj ((DeviceRecord.key?_of_mac named).symm.trans own)
    cases brought with
    | added _ stamped _ => simp [stamped, incoming] at named
    | @moved _ old stored rest resolved taken stamped _ =>
        have same : merged.macAddress = stored.record.macAddress := by
          simp [stamped, DeviceRecord.macAddress_merge, incoming]
        have present := (Inventory.take_eq_some taken).1
        rw [same, ← keyed.key_of_mac present (same ▸ named)] at elsewhere
        exact elsewhere resolved
  · exact brought.not_displaces_of_incoming incoming

/-- No other device stands under the lowest IP address of a merged record. If one did, the address
would be in the index, and be the first of the incoming record: so the record would resolve to a
holder of it, whose lowest address is not above it.
-/
theorem Brought.not_displaces_of_unnamed
    (brought : Brought inventory record now usage merged created next)
    (regular : inventory.Regular) (indexed : inventory.Indexed) (tidy : record.Tidy)
    (unnamed : merged.macAddress = "")
    : ¬ Displaces inventory record merged := by
  rintro ⟨key, other, own, elsewhere, found⟩
  obtain ⟨member, least⟩ := DeviceRecord.key?_least unnamed own
  have incoming : record.macAddress = "" := by
    by_contra named
    exact named ((brought.mac_of_named named).symm.trans unnamed)
  -- Were the key the first incoming address, the record would resolve to a holder of it.
  have first (among : key ∈ record.ips) (lowest : ∀ ip ∈ record.ips, key ≤ ip)
      : ∃ owner device,
          inventory.resolve record.macAddress record.ips = some owner
          ∧ inventory.devices.get? owner = some device
          ∧ key ∈ device.record.ips := by
    obtain ⟨rest, shape⟩ := DeviceRecord.ips_eq_cons among lowest
    rw [incoming, shape]
    exact indexed.resolve_first regular found (tidy.plain key among) rest
  cases brought with
  | added resolved stamped _ =>
      subst stamped
      obtain ⟨owner, _, owned, _⟩ := first member least
      simp [resolved] at owned
  | @moved _ old stored rest resolved taken stamped _ =>
      subst stamped
      have present := (Inventory.take_eq_some taken).1
      have storedUnnamed : stored.record.macAddress = "" := by
        simpa [DeviceRecord.macAddress_merge, incoming] using unnamed
      obtain ⟨oldMember, oldLeast⟩ :=
        DeviceRecord.key?_least storedUnnamed (regular.keyed _ _ present)
      -- The moving device stands under its own lowest address, which the merged record keeps.
      have notHeld : key ∉ stored.record.ips := by
        intro holds
        have above : key ≤ old :=
          least old (DeviceRecord.mem_ips_merge_of_existing (tidy.sighted incoming) oldMember)
        exact elsewhere (le_antisymm above (oldLeast key holds) ▸ resolved)
      have among : key ∈ record.ips :=
        (DeviceRecord.mem_ips_of_mem_merge member).resolve_left notHeld
      obtain ⟨owner, device, owned, there, holds⟩ := first among
        fun ip held => least ip (DeviceRecord.mem_ips_merge_of_incoming held)
      obtain rfl := Option.some.inj (resolved.symm.trans owned)
      obtain rfl := Option.some.inj (present.symm.trans there)
      exact notHeld holds

theorem Brought.not_displaces (brought : Brought inventory record now usage merged created next)
    (regular : inventory.Regular) (indexed : inventory.Indexed) (tidy : record.Tidy)
    : ¬ Displaces inventory record merged := by
  by_cases unnamed : merged.macAddress = ""
  · exact brought.not_displaces_of_unnamed regular indexed tidy unnamed
  · exact brought.not_displaces_of_named regular.keyed unnamed

/-- A record that displaces no device leaves the index sound and complete. -/
theorem Brought.indexed (brought : Brought inventory record now usage merged created next)
    (indexed : inventory.Indexed) (free : ¬ Displaces inventory record merged)
    : next.Indexed := by
  cases brought with
  | added resolved _ keyed =>
      exact indexed.put (get?_of_not_displaces_unresolved free resolved keyed) _
  | moved resolved taken _ keyed =>
      exact (indexed.take taken).put (get?_of_not_displaces_taken free resolved taken keyed) _

end

/-- It is enough that the given records are plain and name no IP address of their own. -/
theorem Call.admits_tidy {call : Call}
    (tidy : ∀ raw ∈ call.records, raw.Plain ∧ raw.ipv4Address = "")
    : call.Admits DeviceRecord.Tidy := by
  intro raw among record accepted
  obtain ⟨plain, unnamed⟩ := tidy raw among
  obtain ⟨mac, _, rfl, _⟩ := accept_eq_ok accepted
  exact ⟨plain, fun _ => unnamed⟩

/-- Every device under its own key and every address of it in the index. -/
structure Consistent (inventory : Inventory) : Prop where
  regular : inventory.Regular
  indexed : inventory.Indexed

theorem kept_consistent : Kept DeviceRecord.Tidy Consistent where
  bring accepted fit brought consistent := ⟨
    kept_regular.bring accepted fit.plain brought consistent.regular,
    brought.indexed consistent.indexed
      (brought.not_displaces consistent.regular consistent.indexed fit)
  ⟩
  take taken consistent :=
    ⟨kept_regular.take taken consistent.regular, consistent.indexed.take taken⟩
  retouch same consistent :=
    ⟨kept_regular.retouch same consistent.regular, consistent.indexed.retouch same⟩

/-- A store that was empty once is consistent as long as tidy records come in. -/
theorem Run.consistent {clock : Clock} {binInterval reach : Int} {steps : List Step} {last : Store}
    (run : Run (.empty clock binInterval reach) steps last)
    (tidy : ∀ step ∈ steps, step.call.Admits DeviceRecord.Tidy)
    : Consistent last.inventory :=
  run.kept kept_consistent tidy ⟨regular_empty, Inventory.indexed_empty⟩

theorem Run.consistent_of_records {clock : Clock} {binInterval reach : Int} {steps : List Step}
    {last : Store} (run : Run (.empty clock binInterval reach) steps last)
    (tidy : ∀ step ∈ steps, ∀ raw ∈ step.call.records, raw.Plain ∧ raw.ipv4Address = "")
    : Consistent last.inventory :=
  run.consistent fun step member => Call.admits_tidy (tidy step member)

-----------------------------------------------------------------------------------------
-- What is found at an address
-----------------------------------------------------------------------------------------

variable {store last : Store} {ip : String}

theorem byIp?_eq_some {record : DeviceRecord}
    : store.byIp? ip = some record
      ↔ ∃ key stored,
          store.inventory.owners.get? ip = some key
          ∧ store.inventory.devices.get? key = some stored
          ∧ stored.record = record := by
  simp only [byIp?, Inventory.byIp?, Option.map_map, Option.map_eq_some_iff, Prod.exists,
    Inventory.owner?_eq_some, Function.comp_apply, and_assoc]

/-- In a consistent store what is found at an address is listed and holds it. -/
theorem Consistent.listed_of_byIp? (consistent : Consistent store.inventory)
    {record : DeviceRecord} (found : store.byIp? ip = some record)
    : record ∈ store.list [] ∧ ip ∈ record.ips := by
  obtain ⟨key, stored, owned, present, rfl⟩ := byIp?_eq_some.mp found
  obtain ⟨device, there, holds⟩ := consistent.indexed.sound owned
  obtain rfl := Option.some.inj (present.symm.trans there)
  exact ⟨mem_list_nil.mpr ⟨key, stored, present, rfl⟩, holds⟩

/-- In a consistent store something is found at an address exactly if a listed record holds it. -/
theorem Consistent.isSome_byIp?_iff (consistent : Consistent store.inventory)
    : (store.byIp? ip).isSome = true ↔ ∃ record ∈ store.list [], ip ∈ record.ips := by
  constructor
  · intro found
    obtain ⟨record, found⟩ := Option.isSome_iff_exists.mp found
    exact ⟨record, consistent.listed_of_byIp? found⟩
  · rintro ⟨_, listed, holds⟩
    obtain ⟨key, stored, present, rfl⟩ := mem_list_nil.mp listed
    obtain ⟨owner, owned⟩ := consistent.indexed.complete present holds
    obtain ⟨device, there, _⟩ := consistent.indexed.sound owned
    have found : store.byIp? ip = some device.record :=
      byIp?_eq_some.mpr ⟨owner, device, owned, there, rfl⟩
    rw [found]
    rfl

/-- As long as tidy records come into a store that was empty, every device stands under its own
key, every entry of the index names a device that holds the address, every address of a device is
in the index, and so lookups by address find exactly the addresses that devices hold.
-/
theorem Run.address_index {clock : Clock} {binInterval reach : Int} {steps : List Step}
    (run : Run (.empty clock binInterval reach) steps last)
    (tidy : ∀ step ∈ steps, step.call.Admits DeviceRecord.Tidy)
    : (∀ key stored,
        last.inventory.devices.get? key = some stored
        → (stored.record.macAddress ≠ "" ∧ key = stored.record.macAddress)
          ∨ (stored.record.macAddress = ""
            ∧ key ∈ stored.record.ips
            ∧ ∀ ip ∈ stored.record.ips, key ≤ ip))
      ∧ (∀ ip key,
        last.inventory.owners.get? ip = some key
        → ∃ stored, last.inventory.devices.get? key = some stored ∧ ip ∈ stored.record.ips)
      ∧ (∀ key stored,
        last.inventory.devices.get? key = some stored
        → ∀ ip ∈ stored.record.ips, ∃ owner, last.inventory.owners.get? ip = some owner)
      ∧ (∀ ip, (last.byIp? ip).isSome = true ↔ ∃ record ∈ last.list [], ip ∈ record.ips)
      ∧ ∀ ip record,
        last.byIp? ip = some record → record ∈ last.list [] ∧ ip ∈ record.ips := by
  have consistent := run.consistent tidy
  refine ⟨fun key stored present => ?keys, ?rest⟩
  case keys =>
    by_cases unnamed : stored.record.macAddress = ""
    · have own := consistent.regular.keyed _ _ present
      exact .inr ⟨unnamed, DeviceRecord.key?_least unnamed own⟩
    · exact .inl ⟨unnamed, consistent.regular.keyed.key_of_mac present unnamed⟩
  case rest =>
    exact ⟨
      fun ip key owned => consistent.indexed.sound owned,
      fun key stored present ip member => consistent.indexed.complete present member,
      fun ip => consistent.isSome_byIp?_iff,
      fun ip record found => consistent.listed_of_byIp? found
    ⟩

/-- The address of a pruned device is found at the other device that holds it. -/
theorem Run.address_index_shared
    : let first :=
        (empty (.fixed 0) 0 0).step
          (.merge 0
            { DeviceRecord.withMac "00:11:22:33:44:55" with
              arp := .singleton "10.0.0.5" default })
      let second :=
        first.after.step
          (.merge 0
            { DeviceRecord.withMac "00:11:22:33:44:66" with
              arp := .singleton "10.0.0.5" default })
      let pruned :=
        second.after.step (.prune [fun record => record.macAddress = "00:11:22:33:44:66"])
      ∃ record ∈ pruned.after.list [],
        pruned.after.byIp? "10.0.0.5" = some record ∧ "10.0.0.5" ∈ record.ips := by
  intro first second pruned
  have run : Run (empty (.fixed 0) 0 0) [first, second, pruned] pruned.after :=
    .step (.step (.step .done))
  have tidy : ∀ step ∈ [first, second, pruned], step.call.Admits DeviceRecord.Tidy := by
    intro step member
    apply Call.admits_tidy
    simp only [List.mem_cons, List.not_mem_nil, or_false] at member
    rcases member with rfl | rfl | rfl <;> decide +kernel
  obtain ⟨-, -, -, -, found⟩ := run.address_index tidy
  have held : (pruned.after.byIp? "10.0.0.5").isSome = true := by decide +kernel
  obtain ⟨record, there⟩ := Option.isSome_iff_exists.mp held
  obtain ⟨listed, holds⟩ := found "10.0.0.5" record there
  exact ⟨record, listed, there, holds⟩

end Store

end NetInventory
