import NetInventory.Proofs.Device.Addresses

/-! Devices that leave an inventory and devices that enter it. Each operation is described by what
lookups find afterwards: a device that leaves hands its addresses over to other holders, and a
device that enters takes all of its own. A record resolves to a device that is there.
-/

namespace NetInventory

theorem StoredDevice.holds_iff {stored : StoredDevice} {ip : String}
    : stored.holds ip = true ↔ ip ∈ stored.record.ips := by
  simp [holds]

namespace Inventory

variable {inventory rest : Inventory} {stored : StoredDevice} {key ip mac : String}

-----------------------------------------------------------------------------------------
-- Holders and owners
-----------------------------------------------------------------------------------------

theorem holder?_eq_some {devices : SortedMap StoredDevice} (found : holder? devices ip = some key)
    : ∃ stored, devices.get? key = some stored ∧ ip ∈ stored.record.ips := by
  obtain ⟨⟨key, stored⟩, first, rfl⟩ := Option.map_eq_some_iff.mp found
  have holds := List.find?_some first
  exact ⟨
    stored,
    SortedMap.get?_eq_some_iff.mpr (List.mem_of_find?_eq_some first),
    StoredDevice.holds_iff.mp holds
  ⟩

theorem exists_holder? {devices : SortedMap StoredDevice} (found : devices.get? key = some stored)
    (member : ip ∈ stored.record.ips)
    : ∃ holder, holder? devices ip = some holder := by
  refine Option.isSome_iff_exists.mp ?_
  rw [holder?, Option.isSome_map, List.find?_isSome]
  exact ⟨(key, stored), SortedMap.get?_eq_some_iff.mp found, StoredDevice.holds_iff.mpr member⟩

/-- No holder of an address has a lower key than the one found. Witness: it is the first in an
ordered list.
-/
theorem holder?_le {devices : SortedMap StoredDevice} (found : holder? devices ip = some key)
    {other : String} (present : devices.get? other = some stored) (member : ip ∈ stored.record.ips)
    : key ≤ other := by
  obtain ⟨⟨key, first⟩, chosen, rfl⟩ := Option.map_eq_some_iff.mp found
  obtain ⟨-, before, after, shape, skipped⟩ := List.find?_eq_some_iff_append.mp chosen
  have sorted := devices.sorted
  have among := SortedMap.get?_eq_some_iff.mp present
  rw [SortedMap.toList] at shape
  rw [shape] at sorted among
  rcases List.mem_append.mp among with earlier | later
  · simpa [StoredDevice.holds_iff.mpr member] using skipped _ earlier
  · rcases List.mem_cons.mp later with same | behind
    · exact (congrArg Prod.fst same).ge
    · have ordered := (List.pairwise_append.mp sorted).2.1
      exact ((List.pairwise_cons.mp ordered).1 _ behind).le

/-- A device holds an address, and no device with a lower key does. -/
structure FirstHolder (devices : SortedMap StoredDevice) (ip key : String) : Prop where
  holds : ∃ stored, devices.get? key = some stored ∧ ip ∈ stored.record.ips
  least
    : ∀ other stored, devices.get? other = some stored → ip ∈ stored.record.ips → key ≤ other

theorem holder?_eq_some_iff {devices : SortedMap StoredDevice}
    : holder? devices ip = some key ↔ FirstHolder devices ip key := by
  constructor
  · exact fun found => ⟨holder?_eq_some found, fun _ _ present => holder?_le found present⟩
  · rintro ⟨⟨stored, present, member⟩, least⟩
    obtain ⟨holder, found⟩ := exists_holder? present member
    obtain ⟨device, there, holds⟩ := holder?_eq_some found
    rw [found, le_antisymm (holder?_le found present member) (least holder device there holds)]

/-- The first holder is the first one among any holders that it is one of. -/
theorem FirstHolder.among {devices others : SortedMap StoredDevice}
    (first : FirstHolder devices ip key)
    (holds : ∃ stored, others.get? key = some stored ∧ ip ∈ stored.record.ips)
    (held
      : ∀ other,
          (∃ stored, others.get? other = some stored ∧ ip ∈ stored.record.ips)
          → ∃ stored, devices.get? other = some stored ∧ ip ∈ stored.record.ips)
    : FirstHolder others ip key := by
  refine ⟨holds, fun other stored present member => ?_⟩
  obtain ⟨device, there, carries⟩ := held other ⟨stored, present, member⟩
  exact first.least other device there carries

/-- Who gets an address is decided by who holds it. -/
theorem holder?_congr {devices others : SortedMap StoredDevice}
    (same
      : ∀ key,
          (∃ stored, devices.get? key = some stored ∧ ip ∈ stored.record.ips)
          ↔ ∃ stored, others.get? key = some stored ∧ ip ∈ stored.record.ips)
    : holder? devices ip = holder? others ip := by
  refine Option.ext fun key => ?_
  rw [holder?_eq_some_iff, holder?_eq_some_iff]
  constructor
  · exact fun first => first.among ((same key).mp first.holds) fun other => (same other).mpr
  · exact fun first => first.among ((same key).mpr first.holds) fun other => (same other).mp

/-- Where devices leave and the holder that is found stays, the same one is found among the
others.
-/
theorem holder?_of_fewer {devices fewer : SortedMap StoredDevice}
    (among : ∀ {key stored}, fewer.get? key = some stored → devices.get? key = some stored)
    (stays : ∀ key, holder? devices ip = some key → fewer.get? key = devices.get? key)
    : holder? fewer ip = holder? devices ip := by
  have held (other : String)
      : (∃ stored, fewer.get? other = some stored ∧ ip ∈ stored.record.ips)
        → ∃ stored, devices.get? other = some stored ∧ ip ∈ stored.record.ips :=
    fun ⟨stored, there, member⟩ => ⟨stored, among there, member⟩
  cases found : holder? devices ip with
  | none =>
      refine Option.eq_none_iff_forall_ne_some.mpr fun key other => ?_
      obtain ⟨stored, present, member⟩ := held key (holder?_eq_some other)
      obtain ⟨holder, first⟩ := exists_holder? present member
      simp [found] at first
  | some key =>
      have first := holder?_eq_some_iff.mp found
      refine holder?_eq_some_iff.mpr (first.among ?_ held)
      rw [stays key found]
      exact first.holds

/-- An address belongs to a key if the index says so and a device stands under the key. -/
theorem owner?_eq_some
    : inventory.owner? ip = some (key, stored)
      ↔ inventory.owners.get? ip = some key ∧ inventory.devices.get? key = some stored := by
  simp only [owner?, Option.bind_eq_bind, Option.bind_eq_some_iff, Option.pure_def,
    Option.some.injEq, Prod.mk.injEq]
  constructor
  · rintro ⟨_, owned, _, found, rfl, rfl⟩
    exact ⟨owned, found⟩
  · rintro ⟨owned, found⟩
    exact ⟨key, owned, stored, found, rfl, rfl⟩

-----------------------------------------------------------------------------------------
-- A device leaves or enters
-----------------------------------------------------------------------------------------

/-- Handing addresses over changes those that belonged to the key, and each goes to its holder.
Witness: induction on the addresses; an address met twice is given to the same holder again.
-/
theorem get?_foldl_handOver (devices : SortedMap StoredDevice) (key : String) (ips : List String)
    (owners : SortedMap String) (ip : String)
    : (ips.foldl (handOver devices key) owners).get? ip
      = if ip ∈ ips ∧ owners.get? ip = some key then holder? devices ip
        else owners.get? ip := by
  -- One address at a time: the owner of any other address stays.
  have handOne (owners : SortedMap String) (head : String)
      : (handOver devices key owners head).get? ip
        = if ip = head ∧ owners.get? ip = some key then holder? devices ip
          else owners.get? ip := by
    unfold handOver
    by_cases same : ip = head
    · subst head
      by_cases owned : owners.get? ip = some key
      · cases holder? devices ip <;> simp [owned, SortedMap.get?_insert, SortedMap.get?_erase]
      · simp [owned]
    · simp only [same, false_and, if_false]
      split
      · split <;> simp [same, SortedMap.get?_insert, SortedMap.get?_erase]
      · rfl
  induction ips generalizing owners with
  | nil => simp
  | cons head rest ih =>
      rw [List.foldl_cons, ih, handOne]
      by_cases same : ip = head
      · subst head
        by_cases owned : owners.get? ip = some key <;> simp [owned]
      · simp [same]

/-- A device that is taken was there, it alone leaves, and the addresses that belonged to it go to
other holders.
-/
theorem take_eq_some (taken : inventory.take key = some (stored, rest))
    : inventory.devices.get? key = some stored
      ∧ rest.devices = inventory.devices.erase key
      ∧ ∀ ip,
          rest.owners.get? ip
            = if ip ∈ stored.record.ips ∧ inventory.owners.get? ip = some key then
                holder? rest.devices ip
              else
                inventory.owners.get? ip := by
  obtain ⟨device, found, shape⟩ := Option.map_eq_some_iff.mp taken
  obtain ⟨rfl, rfl⟩ := Prod.mk.inj shape
  exact ⟨found, rfl, fun ip => get?_foldl_handOver _ _ _ _ ip⟩

theorem exists_take (found : inventory.devices.get? key = some stored)
    : ∃ rest, inventory.take key = some (stored, rest) := by
  simp [take, found]

theorem take_eq_none (taken : inventory.take key = none) : inventory.devices.get? key = none :=
  Option.map_eq_none_iff.mp taken

theorem get?_take (taken : inventory.take key = some (stored, rest)) (other : String)
    : rest.devices.get? other = if other = key then none else inventory.devices.get? other := by
  rw [(take_eq_some taken).2.1, SortedMap.get?_erase]

/-- Every record that is given when devices are taken out is one device less, by induction on the
keys.
-/
theorem size_takeAll (inventory : Inventory) (keys : List String)
    : (inventory.takeAll keys).1.length + (inventory.takeAll keys).2.devices.size
      = inventory.devices.size := by
  induction keys generalizing inventory with
  | nil => simp [takeAll]
  | cons key keys ih =>
      simp only [takeAll]
      cases taken : inventory.take key with
      | none => exact ih inventory
      | some out =>
          obtain ⟨stored, rest⟩ := out
          obtain ⟨present, erased, -⟩ := take_eq_some taken
          have smaller := SortedMap.size_erase present
          have below := ih rest
          rw [erased] at below
          simp only [List.length_cons]
          omega

/-- What holds of an inventory whichever device leaves holds when several have left, by induction on
the keys.
-/
theorem takeAll_kept {P : Inventory → Prop}
    (kept
      : ∀ {inventory key stored rest},
          inventory.take key = some (stored, rest) → P inventory → P rest)
    (keys : List String) (start : P inventory)
    : P (inventory.takeAll keys).2 := by
  induction keys generalizing inventory with
  | nil => exact start
  | cons key keys ih =>
      simp only [takeAll]
      cases taken : inventory.take key with
      | none => exact ih start
      | some out => exact ih (kept taken start)

/-- A device that is put in owns its addresses from then on. -/
theorem get?_owners_put (inventory : Inventory) (key : String) (stored : StoredDevice)
    (ip : String)
    : (inventory.put key stored).owners.get? ip
      = if ip ∈ stored.record.ips then some key else inventory.owners.get? ip :=
  SortedMap.get?_foldl_insert_keys _ _ _ _

/-- A device that is put in stands under its key, and the others stay. -/
theorem get?_put (inventory : Inventory) (key : String) (stored : StoredDevice) (other : String)
    : (inventory.put key stored).devices.get? other
      = if other = key then some stored else inventory.devices.get? other :=
  SortedMap.get?_insert _ _ _ _

theorem devices_put_take (taken : inventory.take key = some (stored, rest)) (later : StoredDevice)
    : (rest.put key later).devices = inventory.devices.insert key later := by
  refine SortedMap.ext_get? fun other => ?_
  rw [get?_put, get?_take taken, SortedMap.get?_insert]
  split <;> rfl

-----------------------------------------------------------------------------------------
-- Resolution
-----------------------------------------------------------------------------------------

/-- A record with the hardware address of a key resolves to that key. -/
theorem resolve_of_known (ips : List String) (named : mac ≠ "")
    (found : inventory.devices.get? mac = some stored)
    : inventory.resolve mac ips = some mac := by
  simp [resolve, SortedMap.contains, named, found]

/-- A record resolves to a device that is there: to the one under its hardware address, or to the
owner of one of its IP addresses unless both sides have a hardware address.
-/
theorem resolve_eq_some {ips : List String} (found : inventory.resolve mac ips = some key)
    : ∃ stored,
        inventory.devices.get? key = some stored
        ∧ (mac ≠ "" ∧ key = mac
          ∨ (∃ ip ∈ ips, inventory.owners.get? ip = some key)
            ∧ (mac = "" ∨ stored.record.macAddress = "")) := by
  unfold resolve at found
  split at found
  next known =>
    obtain rfl : mac = key := Option.some.inj found
    simp only [SortedMap.contains, Bool.and_eq_true, Bool.not_eq_true', Option.isSome_iff_exists,
      String.isEmpty_eq_false_iff] at known
    obtain ⟨named, stored, present⟩ := known
    exact ⟨stored, present, .inl ⟨named, rfl⟩⟩
  next =>
    obtain ⟨ip, member, chosen⟩ := List.exists_of_findSome?_eq_some found
    obtain ⟨⟨owner, stored⟩, owned, admitted⟩ := Option.bind_eq_some_iff.mp chosen
    obtain ⟨index, present⟩ := owner?_eq_some.mp owned
    dsimp only at admitted
    split at admitted
    next fit =>
      obtain rfl : owner = key := Option.some.inj admitted
      simp only [Bool.or_eq_true, String.isEmpty_iff] at fit
      exact ⟨stored, present, .inr ⟨⟨ip, member, index⟩, fit⟩⟩
    next => simp at admitted

/-- A record without a hardware address resolves to the owner of its first IP address, if that
address is owned.
-/
theorem resolve_of_owned (ips : List String) (index : inventory.owners.get? ip = some key)
    (found : inventory.devices.get? key = some stored)
    : inventory.resolve "" (ip :: ips) = some key := by
  have owned := owner?_eq_some.mpr ⟨index, found⟩
  simp [resolve, owned]

/-- A record resolves to no device exactly if none stands under its hardware address and no owner of
one of its IP addresses can take it in, which takes a side without a hardware address.
-/
theorem resolve_eq_none_iff {ips : List String}
    : inventory.resolve mac ips = none
      ↔ (mac ≠ "" → inventory.devices.get? mac = none)
        ∧ ∀ ip ∈ ips, ∀ key stored,
          inventory.owner? ip = some (key, stored)
          → mac ≠ "" ∧ stored.record.macAddress ≠ "" := by
  unfold resolve
  split
  next known =>
    simp only [SortedMap.contains, Bool.and_eq_true, Bool.not_eq_true', Option.isSome_iff_exists,
      String.isEmpty_eq_false_iff] at known
    obtain ⟨named, stored, present⟩ := known
    simp [named, present]
  next unknown =>
    simp only [SortedMap.contains, Bool.and_eq_true, Bool.not_eq_true',
      String.isEmpty_eq_false_iff, not_and, Bool.not_eq_true, Option.isSome_eq_false_iff,
      Option.isNone_iff_eq_none] at unknown
    rw [List.findSome?_eq_none_iff]
    constructor
    · refine fun passed => ⟨unknown, fun ip member key stored owned => ?_⟩
      have refused := passed ip member
      rw [owned] at refused
      simpa [String.isEmpty_iff] using refused
    · rintro ⟨-, refuses⟩ ip member
      rw [Option.bind_eq_none_iff]
      rintro ⟨key, stored⟩ owned
      simp [String.isEmpty_iff, refuses ip member key stored owned]

/-- A record that resolves to no device has an unknown hardware address, if any. -/
theorem get?_of_resolve_eq_none {ips : List String} (absent : inventory.resolve mac ips = none)
    (named : mac ≠ "")
    : inventory.devices.get? mac = none :=
  (resolve_eq_none_iff.mp absent).1 named

/-- A record that resolves to no device found a hardware address at the owner of each of its IP
addresses.
-/
theorem owner?_of_resolve_eq_none {ips : List String}
    (absent : inventory.resolve mac ips = none) (member : ip ∈ ips)
    (owned : inventory.owner? ip = some (key, stored))
    : stored.record.macAddress ≠ "" :=
  ((resolve_eq_none_iff.mp absent).2 ip member key stored owned).2

end Inventory

end NetInventory
