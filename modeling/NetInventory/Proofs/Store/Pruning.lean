import NetInventory.Proofs.Store.AddressIndex

/-! Pruning. Devices leave one after the other, and an address may be handed to a device that leaves
later. In the end an address stays with its owner if the owner stays, and else it belongs to the
lowest of the holders that are left, whatever way it took.
-/

namespace NetInventory

namespace Inventory

variable {inventory middle rest : Inventory} {keys others : List String} {key ip : String}
  {stored : StoredDevice}

-----------------------------------------------------------------------------------------
-- What is left when devices leave
-----------------------------------------------------------------------------------------

/-- The devices under some keys have left an inventory. An address that belonged to one of them goes
to the first holder that is left.
-/
structure Left (keys : List String) (inventory rest : Inventory) : Prop where
  devices : ∀ key, rest.devices.get? key = if key ∈ keys then none else inventory.devices.get? key
  handed
    : ∀ {ip key},
        inventory.owners.get? ip = some key
        → key ∈ keys
        → rest.owners.get? ip = holder? rest.devices ip
  kept
    : ∀ {ip},
        (∀ key ∈ keys, inventory.owners.get? ip ≠ some key)
        → rest.owners.get? ip = inventory.owners.get? ip

theorem Left.present (left : Left keys inventory rest) (found : rest.devices.get? key = some stored)
    : key ∉ keys ∧ inventory.devices.get? key = some stored := by
  rw [left.devices] at found
  split at found
  next => simp at found
  next outside => exact ⟨outside, found⟩

theorem left_nil (inventory : Inventory) : Left [] inventory inventory :=
  ⟨fun _ => rfl, fun _ member => absurd member List.not_mem_nil, fun _ => rfl⟩

/-- A device that is taken leaves alone. -/
theorem Indexed.left_take (indexed : inventory.Indexed)
    (taken : inventory.take key = some (stored, rest))
    : Left [key] inventory rest := by
  obtain ⟨present, -, owners⟩ := take_eq_some taken
  refine ⟨fun other => ?devices, fun owned member => ?handed, fun elsewhere => ?kept⟩
  case devices => simp only [get?_take taken, List.mem_singleton]
  case handed =>
    obtain rfl := List.mem_singleton.mp member
    obtain ⟨device, there, holds⟩ := indexed.sound owned
    obtain rfl := Option.some.inj (present.symm.trans there)
    rw [owners, if_pos ⟨holds, owned⟩]
  case kept => rw [owners, if_neg fun own => elsewhere key (List.mem_singleton_self key) own.2]

/-- A key without a device leaves nothing to hand over. -/
theorem Indexed.left_absent (indexed : inventory.Indexed)
    (absent : inventory.devices.get? key = none)
    : Left [key] inventory inventory := by
  refine ⟨fun other => ?devices, fun owned member => ?handed, fun _ => rfl⟩
  case devices =>
    split
    next same => rw [List.mem_singleton.mp same, absent]
    next => rfl
  case handed =>
    obtain rfl := List.mem_singleton.mp member
    obtain ⟨device, there, -⟩ := indexed.sound owned
    simp [absent] at there

/-- Devices that leave one after the other leave what is left when they leave together. Witness: an
address that was handed to a device that stays was handed to the first holder among all that are
left, and one that was handed to a device that leaves is handed over again.
-/
theorem Left.append (first : Left keys inventory middle) (later : Left others middle rest)
    : Left (keys ++ others) inventory rest := by
  refine ⟨fun key => ?devices, @fun ip key owned member => ?handed, @fun ip elsewhere => ?kept⟩
  case devices =>
    rw [later.devices, first.devices]
    by_cases before : key ∈ keys <;> simp [before]
  case handed =>
    by_cases before : key ∈ keys
    · have between := first.handed owned before
      by_cases again : ∃ holder ∈ others, middle.owners.get? ip = some holder
      · obtain ⟨holder, leaves, holds⟩ := again
        exact later.handed holds leaves
      · have settled (holder : String) (leaves : holder ∈ others)
            : middle.owners.get? ip ≠ some holder :=
          fun holds => again ⟨holder, leaves, holds⟩
        rw [later.kept settled, between]
        refine (holder?_of_fewer (fun found => (later.present found).2) fun holder found => ?_).symm
        rw [later.devices, if_neg fun leaves => settled holder leaves (between.trans found)]
    · have stays : middle.owners.get? ip = some key := by
        rw [first.kept fun other among same => ?_, owned]
        exact before (Option.some.inj (owned.symm.trans same) ▸ among)
      exact later.handed stays ((List.mem_append.mp member).resolve_left before)
  case kept =>
    have same : middle.owners.get? ip = inventory.owners.get? ip :=
      first.kept fun key among => elsewhere key (List.mem_append_left _ among)
    rw [later.kept fun key among => ?_, same]
    exact same ▸ elsewhere key (List.mem_append_right _ among)

theorem Indexed.takeAll (indexed : inventory.Indexed) (keys : List String)
    : (inventory.takeAll keys).2.Indexed :=
  takeAll_kept (fun taken indexed => indexed.take taken) keys indexed

/-- Devices that are taken one after the other leave together, by induction on the keys. -/
theorem Indexed.left_takeAll (indexed : inventory.Indexed) (keys : List String)
    : Left keys inventory (inventory.takeAll keys).2 := by
  induction keys generalizing inventory with
  | nil => exact left_nil inventory
  | cons key keys ih =>
      simp only [Inventory.takeAll]
      cases taken : inventory.take key with
      | none => exact (indexed.left_absent (take_eq_none taken)).append (ih indexed)
      | some out =>
          obtain ⟨stored, rest⟩ := out
          exact (indexed.left_take taken).append (ih (indexed.take taken))

/-- The devices that are taken are gone, and every other is as it was, by induction on the keys. -/
theorem get?_takeAll (inventory : Inventory) (keys : List String) (key : String)
    : (inventory.takeAll keys).2.devices.get? key
      = if key ∈ keys then none else inventory.devices.get? key := by
  induction keys generalizing inventory with
  | nil => simp [takeAll]
  | cons first keys ih =>
      simp only [takeAll, List.mem_cons]
      cases taken : inventory.take first with
      | none =>
          rw [ih]
          by_cases same : key = first
          · simp [same, take_eq_none taken]
          · simp [same]
      | some out =>
          obtain ⟨stored, rest⟩ := out
          rw [ih, get?_take taken]
          by_cases same : key = first <;> simp [same]

/-- The records that are given are those under the keys, as long as no key comes twice, by induction
on the keys.
-/
theorem takeAll_fst (inventory : Inventory) (distinct : keys.Nodup)
    : (inventory.takeAll keys).1
      = keys.filterMap fun key => (inventory.devices.get? key).map (·.record) := by
  induction keys generalizing inventory with
  | nil => rfl
  | cons key keys ih =>
      obtain ⟨fresh, distinct⟩ := List.nodup_cons.mp distinct
      simp only [takeAll]
      cases taken : inventory.take key with
      | none =>
          rw [List.filterMap_cons_none (by rw [take_eq_none taken]; rfl)]
          exact ih inventory distinct
      | some out =>
          obtain ⟨stored, rest⟩ := out
          have present := (take_eq_some taken).1
          rw [List.filterMap_cons_some (by rw [present]; rfl)]
          refine congrArg _ ((ih rest distinct).trans (List.filterMap_congr fun other among => ?_))
          rw [get?_take taken, if_neg (ne_of_mem_of_not_mem among fresh)]

-----------------------------------------------------------------------------------------
-- The devices that fulfil conditions
-----------------------------------------------------------------------------------------

variable {conditions : List Condition}

theorem mem_keys_matching
    : key ∈ (inventory.matching conditions).map (·.1)
      ↔ ∃ stored,
          inventory.devices.get? key = some stored ∧ conditions.all (· stored.record) = true := by
  simp only [matching, List.mem_map, List.mem_filter, SortedMap.toList, Prod.exists,
    SortedMap.get?_eq_some_iff, exists_and_right, exists_eq_right]

theorem prune_fst (inventory : Inventory) (conditions : List Condition)
    : (inventory.prune conditions).1
      = (inventory.devices.values.filter fun stored =>
          conditions.all (· stored.record)).map (·.record) := by
  have found (entry : String × StoredDevice) (among : entry ∈ inventory.matching conditions)
      : (inventory.devices.get? entry.1).map (·.record) = some entry.2.record := by
    rw [SortedMap.get?_eq_some_iff.mpr (List.mem_of_mem_filter among), Option.map_some]
  calc
    (inventory.prune conditions).1
      = (inventory.matching conditions).filterMap fun entry =>
          (inventory.devices.get? entry.1).map (·.record) :=
        (takeAll_fst _ (inventory.devices.keys_filter_nodup _)).trans List.filterMap_map
    _ = (inventory.matching conditions).map (·.2.record) :=
        (List.filterMap_congr found).trans (congrFun List.filterMap_eq_map' _)
    _ = _ := by
        rw [SortedMap.values, List.filter_map, List.map_map]
        rfl

/-- Where the devices that fulfil the conditions are gone, and every other is as it was, what does
not fulfil them is left, and no other device.
-/
theorem get?_of_unmatched
    (devices
      : ∀ key,
          rest.devices.get? key
          = if key ∈ (inventory.matching conditions).map (·.1) then none
            else inventory.devices.get? key)
    : rest.devices.get? key = some stored
      ↔ inventory.devices.get? key = some stored ∧ conditions.all (· stored.record) = false := by
  rw [devices]
  split
  next member =>
    obtain ⟨device, there, fulfils⟩ := mem_keys_matching.mp member
    refine iff_of_false nofun fun ⟨present, unfulfilled⟩ => ?_
    obtain rfl := Option.some.inj (present.symm.trans there)
    simp [unfulfilled] at fulfils
  next outside =>
    refine (and_iff_left_of_imp fun present => Bool.eq_false_iff.mpr fun fulfils => ?_).symm
    exact outside (mem_keys_matching.mpr ⟨stored, present, fulfils⟩)

theorem Left.get?_matching
    (left : Left ((inventory.matching conditions).map (·.1)) inventory rest)
    : rest.devices.get? key = some stored
      ↔ inventory.devices.get? key = some stored ∧ conditions.all (· stored.record) = false :=
  get?_of_unmatched left.devices

/-- What does not fulfil the conditions is left when the others are pruned. -/
theorem get?_prune (inventory : Inventory) (conditions : List Condition)
    : (inventory.prune conditions).2.devices.get? key = some stored
      ↔ inventory.devices.get? key = some stored ∧ conditions.all (· stored.record) = false :=
  get?_of_unmatched (inventory.get?_takeAll _)

theorem Indexed.owners_eq_none_iff (indexed : inventory.Indexed)
    : inventory.owners.get? ip = none
      ↔ ∀ key stored, inventory.devices.get? key = some stored → ip ∉ stored.record.ips := by
  constructor
  · intro unowned key stored present member
    obtain ⟨owner, owned⟩ := indexed.complete present member
    simp [unowned] at owned
  · refine fun unheld => Option.eq_none_iff_forall_ne_some.mpr fun key owned => ?_
    obtain ⟨stored, present, member⟩ := indexed.sound owned
    exact unheld key stored present member

/-- Where no device fulfils the conditions nothing leaves. -/
theorem prune_of_unfulfilled
    (none
      : ∀ key stored,
          inventory.devices.get? key = some stored → conditions.all (· stored.record) = false)
    : inventory.prune conditions = ([], inventory) := by
  have nobody : (inventory.matching conditions).map (·.1) = [] := by
    refine List.eq_nil_iff_forall_not_mem.mpr fun key member => ?_
    obtain ⟨stored, present, fulfils⟩ := mem_keys_matching.mp member
    simp [none key stored present] at fulfils
  rw [prune, nobody, takeAll]

end Inventory

namespace Store

/-- Pruning removes the devices that fulfil all conditions, gives their records in the order of
their keys, and leaves every other device as it is. An address stays with its owner if the owner
stays; else it belongs to the first holder that is left; and it is in the index as long as a
device that is left holds it. Pruning again removes nothing.
-/
theorem prune_rehomes {store : Store} (indexed : store.inventory.Indexed)
    (conditions : List Condition)
    : ∃ inventory,
        store.prune conditions
          = ((store.inventory.devices.values.filter fun stored =>
                conditions.all (· stored.record)).map (·.record),
              { store with inventory })
        ∧ (∀ key stored,
          inventory.devices.get? key = some stored
          ↔ store.inventory.devices.get? key = some stored
            ∧ conditions.all (· stored.record) = false)
        ∧ (∀ ip owner stored,
          store.inventory.owners.get? ip = some owner
          → inventory.devices.get? owner = some stored
          → inventory.owners.get? ip = some owner)
        ∧ (∀ ip owner,
          store.inventory.owners.get? ip = some owner
          → inventory.devices.get? owner = none
          → ∀ key,
            inventory.owners.get? ip = some key
            ↔ Inventory.FirstHolder inventory.devices ip key)
        ∧ (∀ ip,
          inventory.owners.get? ip = none
          ↔ ∀ key stored, inventory.devices.get? key = some stored → ip ∉ stored.record.ips)
        ∧ prune conditions { store with inventory } = ([], { store with inventory }) := by
  have later := indexed.takeAll ((store.inventory.matching conditions).map (·.1))
  have left := indexed.left_takeAll ((store.inventory.matching conditions).map (·.1))
  refine ⟨(store.inventory.prune conditions).2, ?answer, fun key stored => left.get?_matching,
    ?stays, ?moves, fun ip => later.owners_eq_none_iff, ?again⟩
  case answer =>
    rw [← Inventory.prune_fst]
    rfl
  case stays =>
    intro ip owner stored owned present
    have outside := (left.present present).1
    refine (left.kept fun key leaves other => ?_).trans owned
    exact outside (Option.some.inj (owned.symm.trans other) ▸ leaves)
  case moves =>
    intro ip owner owned gone key
    obtain ⟨stored, present, -⟩ := indexed.sound owned
    have leaves : owner ∈ (store.inventory.matching conditions).map (·.1) := by
      by_contra outside
      have stays := left.devices owner
      rw [if_neg outside, present] at stays
      simp [Inventory.prune, stays] at gone
    rw [← Inventory.holder?_eq_some_iff]
    exact iff_of_eq (congrArg (· = some key) (left.handed owned leaves))
  case again =>
    have nobody : (store.inventory.prune conditions).2.prune conditions
        = ([], (store.inventory.prune conditions).2) :=
      Inventory.prune_of_unfulfilled fun key stored found => (left.get?_matching.mp found).2
    simp only [prune, nobody]

/-- An address that three devices share goes to the one that is left, though it is handed to the
other one that leaves first.
-/
theorem prune_rehomes_shared
    : let sighted (mac : String) : DeviceRecord :=
        { DeviceRecord.withMac mac with neigh := .singleton "10.0.0.5" default }
      let first := (empty (.fixed 1000) 0 0).step (.merge 0 (sighted "00:11:22:33:44:22"))
      let second := first.after.step (.merge 0 (sighted "00:11:22:33:44:33"))
      let third := second.after.step (.merge 0 (sighted "00:11:22:33:44:11"))
      let others : Condition := fun record => record.macAddress != "00:11:22:33:44:33"
      ∃ removed inventory,
        third.after.prune [others] = (removed, { third.after with inventory })
        ∧ removed.map (·.macAddress) = ["00:11:22:33:44:11", "00:11:22:33:44:22"]
        ∧ third.after.inventory.owners.get? "10.0.0.5" = some "00:11:22:33:44:11"
        ∧ inventory.owners.get? "10.0.0.5" = some "00:11:22:33:44:33" := by
  intro sighted first second third others
  have run : Run (empty (.fixed 1000) 0 0) [first, second, third] third.after :=
    .step (.step (.step .done))
  have consistent := run.consistent_of_records (by decide +kernel)
  have owned : third.after.inventory.owners.get? "10.0.0.5" = some "00:11:22:33:44:11" := by
    decide +kernel
  obtain ⟨inventory, answer, left, -, moves, -⟩ := prune_rehomes consistent.indexed [others]
  -- Only the device with the last address is left.
  have alone (key : String) (stored : StoredDevice)
      (found : inventory.devices.get? key = some stored)
      : key = "00:11:22:33:44:33" := by
    obtain ⟨present, unfulfilled⟩ := (left key stored).mp found
    have mac : stored.record.macAddress = "00:11:22:33:44:33" := by
      simpa [others] using unfulfilled
    have named : stored.record.macAddress ≠ "" := by simp [mac]
    rw [consistent.regular.keyed.key_of_mac present named, mac]
  have gone : inventory.devices.get? "00:11:22:33:44:11" = none :=
    Option.eq_none_iff_forall_ne_some.mpr fun stored found => by
      simpa using alone _ stored found
  have last :
      (third.after.inventory.devices.get? "00:11:22:33:44:33").map
        (fun stored => (others stored.record, stored.record.ips))
      = some (false, ["10.0.0.5"]) := by
    decide +kernel
  obtain ⟨stored, present, shape⟩ := Option.map_eq_some_iff.mp last
  obtain ⟨unfulfilled, ips⟩ := Prod.mk.inj shape
  have stays : inventory.devices.get? "00:11:22:33:44:33" = some stored :=
    (left _ _).mpr ⟨present, by simp [unfulfilled]⟩
  refine ⟨_, inventory, answer, by decide +kernel, owned, (moves _ _ owned gone _).mpr ⟨
    ⟨stored, stays, by simp [ips]⟩,
    fun other device there _ => (alone other device there).ge
  ⟩⟩

end Store

end NetInventory
