import NetInventory.Proofs.Store.Displacement

/-! Records of different devices taken in one after the other. A record that has a hardware address
and speaks of no other device replaces what stands under that address, and leaves to other holders
the IP addresses that it no longer has. Two such records that share no IP address, neither
themselves nor with each other's device, may come in either order. Other devices may share addresses
with both.
-/

namespace NetInventory

/-- What a record is stored as: joined to the device that is known, or as a new device with the
given tracker.
-/
def DeviceRecord.joined (record : DeviceRecord) (now : Int64) (usage : Tracker)
    : Option StoredDevice → StoredDevice
  | some known => ⟨{ known.record.merge record with lastUpdate := now }, known.usage⟩
  | none => ⟨{ record with lastUpdate := now }, usage⟩

namespace Inventory

variable {inventory next left right leftRight rightLeft : Inventory} {record : DeviceRecord}
  {key other ip : String} {stored later : StoredDevice}

-----------------------------------------------------------------------------------------
-- One device replaced
-----------------------------------------------------------------------------------------

/-- A device stands under a key instead of what stood there. It has all of its own addresses, and
the others that belonged to the key go to their lowest holders.
-/
structure Replaced (inventory : Inventory) (key : String) (stored : StoredDevice)
    (next : Inventory) : Prop where
  devices : next.devices = inventory.devices.insert key stored
  owners
    : ∀ ip,
        next.owners.get? ip
        = if ip ∈ stored.record.ips then some key
          else if inventory.owners.get? ip = some key then holder? (inventory.devices.erase key) ip
          else inventory.owners.get? ip

/-- An address has to do with a device that enters under a key: the device has it, or what stands
there does.
-/
def Concerns (inventory : Inventory) (key : String) (stored : StoredDevice) (ip : String) : Prop :=
  ip ∈ stored.record.ips
  ∨ ∃ old, inventory.devices.get? key = some old ∧ ip ∈ old.record.ips

theorem replaced_put (indexed : inventory.Indexed) (free : inventory.devices.get? key = none)
    (stored : StoredDevice)
    : inventory.Replaced key stored (inventory.put key stored) := by
  refine ⟨rfl, fun ip => ?_⟩
  have unowned : inventory.owners.get? ip ≠ some key := by
    intro owned
    obtain ⟨_, present, _⟩ := indexed.sound owned
    simp [free] at present
  rw [get?_owners_put, if_neg unowned]

theorem replaced_put_take (indexed : inventory.Indexed) {rest : Inventory}
    (taken : inventory.take key = some (stored, rest)) (later : StoredDevice)
    : inventory.Replaced key later (rest.put key later) := by
  obtain ⟨present, erased, handed⟩ := take_eq_some taken
  refine ⟨devices_put_take taken later, fun ip => ?_⟩
  -- What belonged to the key was held by the device there.
  have held : inventory.owners.get? ip = some key → ip ∈ stored.record.ips := by
    intro owned
    obtain ⟨device, there, holds⟩ := indexed.sound owned
    exact Option.some.inj (there.symm.trans present) ▸ holds
  rw [get?_owners_put, handed, erased]
  by_cases owned : inventory.owners.get? ip = some key
  · simp [owned, held owned]
  · simp [owned]

theorem Replaced.get? (replaced : inventory.Replaced key stored next) (other : String)
    : next.devices.get? other
      = if other = key then some stored else inventory.devices.get? other := by
  rw [replaced.devices, SortedMap.get?_insert]

theorem Replaced.concerns_iff (replaced : inventory.Replaced key stored next)
    (distinct : other ≠ key)
    : next.Concerns other later ip ↔ inventory.Concerns other later ip := by
  rw [Concerns, Concerns, replaced.get? other, if_neg distinct]

/-- An address that has nothing to do with the device keeps its owner. -/
theorem Replaced.owners_of_unconcerned (replaced : inventory.Replaced key stored next)
    (indexed : inventory.Indexed) (unconcerned : ¬ inventory.Concerns key stored ip)
    : next.owners.get? ip = inventory.owners.get? ip ∧ inventory.owners.get? ip ≠ some key := by
  have unowned : inventory.owners.get? ip ≠ some key :=
    fun owned => unconcerned (.inr (indexed.sound owned))
  rw [replaced.owners, if_neg (mt Or.inl unconcerned), if_neg unowned]
  exact ⟨rfl, unowned⟩

theorem Replaced.holder?_of_unconcerned (replaced : inventory.Replaced key stored next)
    (unconcerned : ¬ inventory.Concerns key stored ip) (other : String)
    : holder? (next.devices.erase other) ip = holder? (inventory.devices.erase other) ip := by
  refine holder?_congr fun holder => ?_
  simp only [SortedMap.get?_erase, replaced.get?]
  by_cases same : holder = key
  · subst holder
    have outside : ip ∉ stored.record.ips := mt Or.inl unconcerned
    have before : ∀ old, inventory.devices.get? key = some old → ip ∉ old.record.ips :=
      fun old present member => unconcerned (.inr ⟨old, present, member⟩)
    split
    next => rfl
    next =>
      constructor
      · rintro ⟨device, found, member⟩
        simp only [if_true, Option.some.injEq] at found
        exact absurd (found ▸ member) outside
      · rintro ⟨old, present, member⟩
        exact absurd member (before old present)
  · rw [if_neg same]

-----------------------------------------------------------------------------------------
-- Two devices replaced
-----------------------------------------------------------------------------------------

/-- Before or after another device is replaced, an address that has nothing to do with that device
gets the same owner.
-/
theorem Replaced.owners_comm (first : inventory.Replaced key stored left)
    (second : left.Replaced other later leftRight) (before : inventory.Replaced other later right)
    (after : right.Replaced key stored rightLeft) (distinct : other ≠ key)
    (indexed : inventory.Indexed) (indexedLeft : left.Indexed)
    (unconcerned : ¬ inventory.Concerns other later ip)
    : leftRight.owners.get? ip = rightLeft.owners.get? ip := by
  have unconcernedLeft : ¬ left.Concerns other later ip :=
    mt (first.concerns_iff distinct).mp unconcerned
  calc
    leftRight.owners.get? ip
    _ = left.owners.get? ip := (second.owners_of_unconcerned indexedLeft unconcernedLeft).1
    _ = rightLeft.owners.get? ip := by
      rw [first.owners, after.owners, before.holder?_of_unconcerned unconcerned,
        (before.owners_of_unconcerned indexed unconcerned).1]

/-- Two devices that share no address, neither themselves nor with what stands under each other's
key, may be replaced in either order. Witness: each address has nothing to do with one of them.
-/
theorem Replaced.comm (first : inventory.Replaced key stored left)
    (second : left.Replaced other later leftRight) (before : inventory.Replaced other later right)
    (after : right.Replaced key stored rightLeft) (distinct : key ≠ other)
    (indexed : inventory.Indexed) (indexedLeft : left.Indexed) (indexedRight : right.Indexed)
    (apart : ∀ ip, inventory.Concerns key stored ip → ¬ inventory.Concerns other later ip)
    : leftRight = rightLeft := by
  have devices : leftRight.devices = rightLeft.devices := by
    refine SortedMap.ext_get? fun place => ?_
    rw [second.get?, first.get?, after.get?, before.get?]
    by_cases one : place = key
    · subst place
      rw [if_pos rfl, if_pos rfl, if_neg distinct]
    · rw [if_neg one, if_neg one]
  have owners : leftRight.owners = rightLeft.owners := by
    refine SortedMap.ext_get? fun ip => ?_
    by_cases concerned : inventory.Concerns other later ip
    · have free : ¬ inventory.Concerns key stored ip := fun here => apart ip here concerned
      exact (before.owners_comm after first second distinct indexed indexedRight free).symm
    · exact first.owners_comm second before after distinct.symm indexed indexedLeft concerned
  calc
    leftRight = ⟨leftRight.devices, leftRight.owners⟩ := rfl
    _ = rightLeft := by rw [devices, owners]

-----------------------------------------------------------------------------------------
-- Records that speak of one device only
-----------------------------------------------------------------------------------------

/-- A record has a hardware address, and it speaks of the device there or of none. -/
structure Own (inventory : Inventory) (record : DeviceRecord) : Prop where
  named : record.macAddress ≠ ""
  known
    : (∃ stored, inventory.devices.get? record.macAddress = some stored)
      ∨ inventory.resolve record.macAddress record.ips = none

/-- The addresses of a record and those of the device under its hardware address. -/
def around (inventory : Inventory) (record : DeviceRecord) : List String :=
  record.ips
  ++ ((inventory.devices.get? record.macAddress).map (·.record.ips)).getD []

theorem Own.resolve_eq (own : inventory.Own record)
    : inventory.resolve record.macAddress record.ips
      = (inventory.devices.get? record.macAddress).map fun _ => record.macAddress := by
  cases found : inventory.devices.get? record.macAddress with
  | some stored => exact resolve_of_known record.ips own.named found
  | none => exact own.known.resolve_left (by simp [found])

theorem mem_around_of_concerns {now : Int64} {usage : Tracker}
    (concerns
      : inventory.Concerns record.macAddress
          (record.joined now usage (inventory.devices.get? record.macAddress)) ip)
    : ip ∈ inventory.around record := by
  unfold Concerns at concerns
  unfold around
  cases found : inventory.devices.get? record.macAddress with
  | none =>
      simp only [found, reduceCtorEq, false_and, exists_false, or_false] at concerns
      exact List.mem_append_left _ concerns
  | some old =>
      simp only [found, Option.some.injEq, exists_eq_left'] at concerns
      rcases concerns with merged | before
      · rcases DeviceRecord.mem_ips_of_mem_merge merged with existing | incoming
        · exact List.mem_append_right _ existing
        · exact List.mem_append_left _ incoming
      · exact List.mem_append_right _ before

/-- A record that shares no address with another device speaks of no other one either once that
device is replaced.
-/
theorem Own.replaced (own : inventory.Own record) (replaced : inventory.Replaced key stored next)
    (indexed : inventory.Indexed) (distinct : record.macAddress ≠ key)
    (apart : ∀ ip ∈ record.ips, ¬ inventory.Concerns key stored ip)
    : next.Own record := by
  refine ⟨own.named, ?_⟩
  rw [replaced.get? record.macAddress, if_neg distinct]
  refine own.known.imp_right fun unresolved => ?_
  cases resolved : next.resolve record.macAddress record.ips with
  | none => rfl
  | some found =>
      have absent := get?_of_resolve_eq_none unresolved own.named
      obtain ⟨device, present, ⟨-, rfl⟩ | ⟨⟨ip, member, owned⟩, unnamed⟩⟩ :=
        resolve_eq_some resolved
      · simp [replaced.get? record.macAddress, distinct, absent] at present
      · -- The owner of the address is the one from before, so it has a hardware address.
        obtain ⟨same, elsewhere⟩ := replaced.owners_of_unconcerned indexed (apart ip member)
        rw [same] at owned
        have unmoved : found ≠ key := fun here => elsewhere (here ▸ owned)
        rw [replaced.get? found, if_neg unmoved] at present
        have owner := owner?_eq_some.mpr ⟨owned, present⟩
        have named := owner?_of_resolve_eq_none unresolved member owner
        exact (unnamed.elim own.named named).elim

end Inventory

namespace Store

variable {inventory next : Inventory} {record merged : DeviceRecord} {now : Int64}
  {usage : Tracker} {created : Bool}

/-- A record that speaks of one device only replaces it, or comes in as a new one. -/
theorem Brought.replaced (brought : Brought inventory record now usage merged created next)
    (own : inventory.Own record) (indexed : inventory.Indexed)
    : let known := inventory.devices.get? record.macAddress
      merged = (record.joined now usage known).record
      ∧ created = known.isNone
      ∧ inventory.Replaced record.macAddress (record.joined now usage known) next := by
  have ownKey := brought.key_of_named own.named
  cases brought with
  | @added key resolved stamped keyed =>
      obtain rfl := Option.some.inj (ownKey.symm.trans keyed)
      have absent := Inventory.get?_of_resolve_eq_none resolved own.named
      rw [absent]
      subst stamped
      exact ⟨rfl, rfl, Inventory.replaced_put indexed absent _⟩
  | @moved key old device rest resolved taken stamped keyed =>
      obtain rfl := Option.some.inj (ownKey.symm.trans keyed)
      rw [own.resolve_eq, Option.map_eq_some_iff] at resolved
      obtain ⟨-, -, rfl⟩ := resolved
      rw [(Inventory.take_eq_some taken).1]
      subst stamped
      exact ⟨rfl, rfl, Inventory.replaced_put_take indexed taken _⟩

/-- A store takes in a record that speaks of one device only by replacing that device, and what
comes of the record depends on that device.
-/
theorem merge_of_own {raw record : DeviceRecord} (store : Store) (instant : Int)
    (accepted : accept raw = .ok record) (own : store.inventory.Own record)
    (indexed : store.inventory.Indexed)
    : let known := store.inventory.devices.get? record.macAddress
      let stored :=
        record.joined store.clock.read.1 (.start store.binInterval store.reach instant) known
      ∃ next,
        store.merge instant raw
          = (.ok ⟨stored.record, Alert.due? record known.isSome, known.isNone⟩,
            { store with inventory := next, clock := store.clock.read.2 })
        ∧ store.inventory.Replaced record.macAddress stored next
        ∧ next.Indexed := by
  intro known stored
  obtain ⟨merged, created, next, brought, result⟩ :=
    mergeWith_of_accepted (fun _ _ => ()) true instant store () accepted
  obtain ⟨rfl, rfl, replaced⟩ := brought.replaced own indexed
  have free := brought.not_displaces_of_incoming own.named
  refine ⟨next, ?_, replaced, brought.indexed indexed free⟩
  rw [merge, result, own.resolve_eq, Option.isSome_map]
  rfl

/-- Records of two devices may be taken in in either order while the clock stands still, if each
speaks of its own device only and neither shares an address with the other or with its device. Both
orders lead to the same store, and each record comes to the same in both of them.
-/
theorem merge_comm {store : Store} {rawFirst first rawSecond second : DeviceRecord}
    (firstAccepted : accept rawFirst = .ok first) (secondAccepted : accept rawSecond = .ok second)
    (distinct : first.macAddress ≠ second.macAddress) (indexed : store.inventory.Indexed)
    (firstOwn : store.inventory.Own first) (secondOwn : store.inventory.Own second)
    (apart : (store.inventory.around first).Disjoint (store.inventory.around second))
    (still : store.clock.read.2.read.1 = store.clock.read.1) (firstInstant secondInstant : Int)
    : ∃ firstOutcome secondOutcome afterFirst afterSecond last,
        store.merge firstInstant rawFirst = (.ok firstOutcome, afterFirst)
        ∧ afterFirst.merge secondInstant rawSecond = (.ok secondOutcome, last)
        ∧ store.merge secondInstant rawSecond = (.ok secondOutcome, afterSecond)
        ∧ afterSecond.merge firstInstant rawFirst = (.ok firstOutcome, last) := by
  obtain ⟨left, leftResult, toLeft, indexedLeft⟩ :=
    merge_of_own store firstInstant firstAccepted firstOwn indexed
  obtain ⟨right, rightResult, toRight, indexedRight⟩ :=
    merge_of_own store secondInstant secondAccepted secondOwn indexed
  have secondOwnLeft : left.Own second := by
    refine secondOwn.replaced toLeft indexed distinct.symm fun ip member concerns => ?_
    exact apart (Inventory.mem_around_of_concerns concerns) (List.mem_append_left _ member)
  have firstOwnRight : right.Own first := by
    refine firstOwn.replaced toRight indexed distinct fun ip member concerns => ?_
    exact apart (List.mem_append_left _ member) (Inventory.mem_around_of_concerns concerns)
  obtain ⟨leftRight, leftRightResult, toLeftRight, -⟩ :=
    merge_of_own { store with inventory := left, clock := store.clock.read.2 } secondInstant
      secondAccepted secondOwnLeft indexedLeft
  obtain ⟨rightLeft, rightLeftResult, toRightLeft, -⟩ :=
    merge_of_own { store with inventory := right, clock := store.clock.read.2 } firstInstant
      firstAccepted firstOwnRight indexedRight
  -- Neither record finds its device changed by the other one, and the clock shows the same time.
  simp only [toLeft.get?, if_neg distinct.symm, still] at leftRightResult toLeftRight
  simp only [toRight.get?, if_neg distinct, still] at rightLeftResult toRightLeft
  obtain rfl : leftRight = rightLeft := by
    refine toLeft.comm toLeftRight toRight toRightLeft distinct indexed indexedLeft indexedRight ?_
    intro ip here there
    exact apart (Inventory.mem_around_of_concerns here) (Inventory.mem_around_of_concerns there)
  exact ⟨_, _, _, _, _, leftResult, leftRightResult, rightResult, rightLeftResult⟩

/-- A third device shares an address with either of the two: it gets the one that the first device
gives up, and the second device, which is new, gets the other one from it.
-/
theorem merge_comm_shared
    : let third : DeviceRecord :=
        { DeviceRecord.withMac "00:11:22:33:44:77" with
          neigh := .ofList [("10.0.0.1", default), ("10.0.0.6", default)] }
      let older : DeviceRecord :=
        { DeviceRecord.withMac "00:11:22:33:44:55" with
          ipv4Address := "10.0.0.1", neigh := .singleton "10.0.0.5" default }
      let first : DeviceRecord := { older with ipv4Address := "10.0.0.9" }
      let second : DeviceRecord :=
        { DeviceRecord.withMac "00:11:22:33:44:66" with neigh := .singleton "10.0.0.6" default }
      let shared := (empty (.fixed 1000) 0 0).step (.merge 0 third)
      let seen := shared.after.step (.merge 0 older)
      ∃ firstOutcome secondOutcome afterFirst afterSecond last,
        seen.after.merge 0 first = (.ok firstOutcome, afterFirst)
        ∧ afterFirst.merge 5 second = (.ok secondOutcome, last)
        ∧ seen.after.merge 5 second = (.ok secondOutcome, afterSecond)
        ∧ afterSecond.merge 0 first = (.ok firstOutcome, last)
        ∧ seen.after.inventory.owners.get? "10.0.0.1" = some "00:11:22:33:44:55"
        ∧ last.inventory.owners.get? "10.0.0.1" = some "00:11:22:33:44:77"
        ∧ last.inventory.owners.get? "10.0.0.6" = some "00:11:22:33:44:66" := by
  intro third older first second shared seen
  have run : Run (empty (.fixed 1000) 0 0) [shared, seen] seen.after := .step (.step .done)
  have admits : ∀ step ∈ [shared, seen], step.call.Admits DeviceRecord.Tidy := by
    intro step member raw among record accepted
    have tidy
        : raw.Plain
          ∧ Mac.normalize raw.macAddress = .ok raw.macAddress
          ∧ raw.macAddress ≠ "" := by
      simp only [List.mem_cons, List.not_mem_nil, or_false] at member
      rcases member with rfl | rfl <;> obtain rfl := List.mem_singleton.mp among <;> decide +kernel
    obtain ⟨plain, normal, named⟩ := tidy
    obtain ⟨mac, other, rfl, -⟩ := accept_eq_ok accepted
    obtain rfl := Except.ok.inj (normal.symm.trans other)
    exact ⟨plain, fun unnamed => absurd unnamed named⟩
  have firstAccepted : accept first = .ok first :=
    accept_of_normal (by decide +kernel) (by decide +kernel) (by decide +kernel)
  have secondAccepted : accept second = .ok second :=
    accept_of_normal (by decide +kernel) (by decide +kernel) (by decide +kernel)
  have firstOwn : seen.after.inventory.Own first :=
    ⟨by decide, .inl (Option.isSome_iff_exists.mp (by decide +kernel))⟩
  have secondOwn : seen.after.inventory.Own second := ⟨by decide, .inr (by decide +kernel)⟩
  have apart : (seen.after.inventory.around first).Disjoint (seen.after.inventory.around second) :=
    List.disjoint_left.mpr (by decide +kernel)
  have still : seen.after.clock.read.2.read.1 = seen.after.clock.read.1 := by decide +kernel
  obtain ⟨firstOutcome, secondOutcome, afterFirst, afterSecond, last, one, two, three, four⟩ :=
    merge_comm firstAccepted secondAccepted (by decide) (run.consistent admits).indexed firstOwn
      secondOwn apart still 0 5
  obtain rfl : (seen.after.merge 0 first).2 = afterFirst := congrArg Prod.snd one
  obtain rfl : ((seen.after.merge 0 first).2.merge 5 second).2 = last := congrArg Prod.snd two
  exact ⟨_, _, _, _, _, one, two, three, four, by decide +kernel⟩

end Store

end NetInventory
