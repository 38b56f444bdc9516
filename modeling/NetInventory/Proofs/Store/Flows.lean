import Mathlib.Algebra.GroupWithZero.Nat
import NetInventory.Store.Summary
import NetInventory.Proofs.Inventory.Traffic
import NetInventory.Proofs.Store.Run

/-! The flows of all devices together. A batch of flows replaces those that were there: each flow
whose client is known goes to one device, and no other flow is left. So the devices together carry
the known flows of the batch, each as often as it came, and their summaries count them.
-/

namespace NetInventory

namespace Inventory

variable {inventory next : Inventory} {flows : List Connection}

/-- Whether the client of a flow belongs to a device. -/
def knows (inventory : Inventory) (flow : Connection) : Bool :=
  (inventory.owner? flow.clientAddress).isSome

/-- The flows that the devices carry. -/
def carried (inventory : Inventory) : List Connection :=
  inventory.devices.values.flatMap (·.record.connections)

/-- Which clients are known depends on the index and on the keys that devices stand under. -/
theorem knows_congr (owners : next.owners = inventory.owners)
    (keys : ∀ key, (next.devices.get? key).isSome = (inventory.devices.get? key).isSome)
    : next.knows = inventory.knows := by
  funext flow
  have paired (key : String) (device : Option StoredDevice)
      : (device.bind fun stored => some (key, stored)).isSome = device.isSome := by
    cases device <;> rfl
  simp only [knows, owner?, owners]
  cases inventory.owners.get? flow.clientAddress with
  | none => rfl
  | some key => exact (paired key _).trans ((keys key).trans (paired key _).symm)

theorem knows_attach (inventory : Inventory) (flow : Connection)
    : (inventory.attach flow).2.knows = inventory.knows :=
  knows_congr (owners_attach inventory flow) fun key => by rw [get?_attach, Option.isSome_map]

theorem knows_withoutConnections (inventory : Inventory)
    : inventory.withoutConnections.knows = inventory.knows :=
  knows_congr rfl fun key => by
    rw [withoutConnections, SortedMap.get?_mapValues, Option.isSome_map]

theorem knows_replaceConnections (inventory : Inventory) (flows : List Connection)
    : (inventory.replaceConnections flows).2.knows = inventory.knows :=
  knows_congr (owners_of_outline (outline_replaceConnections inventory flows)) fun key => by
    rw [get?_replaceConnections, Option.isSome_map]

-----------------------------------------------------------------------------------------
-- Attaching
-----------------------------------------------------------------------------------------

/-- A flow is attached if its client is known, and then it is added to the flows of the devices. -/
theorem attach_adds (inventory : Inventory) (flow : Connection)
    : (inventory.attach flow).1 = inventory.knows flow
      ∧ (inventory.attach flow).2.carried.Perm
          (inventory.carried ++ [flow].filter inventory.knows) := by
  cases owned : inventory.owner? flow.clientAddress with
  | none =>
      have unknown : inventory.knows flow = false := by rw [knows, owned, Option.isSome_none]
      simp [attach, owned, unknown]
  | some found =>
      obtain ⟨key, stored⟩ := found
      have known : inventory.knows flow = true := by rw [knows, owned, Option.isSome_some]
      have present := (owner?_eq_some.mp owned).2
      refine ⟨by simp only [attach, owned, known], ?_⟩
      simp only [attach, owned, carried, List.filter_cons_of_pos known, List.filter_nil]
      -- The flow is added to those of its device, and the other devices are the same.
      have before := (SortedMap.values_perm_of_get? present).flatMap_right (·.record.connections)
      refine ((inventory.devices.values_insert_perm key _).flatMap_right _).trans ?_
      refine List.Perm.trans ?_ (before.symm.append_right [flow])
      simp only [List.flatMap_cons, List.append_assoc]
      exact List.perm_append_comm.append_left _

/-- Flows are attached as far as their clients are known, by induction on the flows. -/
theorem attachAll_adds (inventory : Inventory) (flows : List Connection)
    : (inventory.attachAll flows).1 = (flows.filter inventory.knows).length
      ∧ (inventory.attachAll flows).2.carried.Perm
          (inventory.carried ++ flows.filter inventory.knows) := by
  induction flows generalizing inventory with
  | nil => simp [attachAll]
  | cons flow rest ih =>
      obtain ⟨attached, added⟩ := inventory.attach_adds flow
      obtain ⟨count, later⟩ := ih (inventory.attach flow).2
      rw [knows_attach] at count later
      have parts : (flow :: rest).filter inventory.knows
          = [flow].filter inventory.knows ++ rest.filter inventory.knows :=
        List.filter_append [flow] rest
      constructor
      · simp only [attachAll]
        rw [count, attached, parts]
        cases known : inventory.knows flow <;> simp [known, Nat.add_comm]
      · rw [parts, ← List.append_assoc]
        exact later.trans (added.append_right _)

theorem carried_withoutConnections (inventory : Inventory)
    : inventory.withoutConnections.carried = [] := by
  rw [carried, withoutConnections, SortedMap.values_mapValues, List.flatMap_map]
  simp

theorem replaceConnections_carries (inventory : Inventory) (flows : List Connection)
    : (inventory.replaceConnections flows).1 = (flows.filter inventory.knows).length
      ∧ (inventory.replaceConnections flows).2.carried.Perm (flows.filter inventory.knows) := by
  have attached := inventory.withoutConnections.attachAll_adds flows
  rwa [knows_withoutConnections, carried_withoutConnections, List.nil_append] at attached

/-- A flow is with the device that its client belongs to, and with no other. -/
theorem mem_connections_replaceConnections {key : String} {flow : Connection}
    : (∃ stored,
        (inventory.replaceConnections flows).2.devices.get? key = some stored
        ∧ flow ∈ stored.record.connections)
      ↔ flow ∈ flows ∧ ∃ stored, inventory.owner? flow.clientAddress = some (key, stored) := by
  simp only [get?_replaceConnections, Option.map_eq_some_iff, owner?_eq_some]
  constructor
  · rintro ⟨_, ⟨stored, present, rfl⟩, member⟩
    obtain ⟨among, owned⟩ := mem_flowsOf.mp member
    exact ⟨among, stored, owned, present⟩
  · rintro ⟨among, stored, owned, present⟩
    exact ⟨_, ⟨stored, present, rfl⟩, mem_flowsOf.mpr ⟨among, owned⟩⟩

/-- The same batch once more replaces each flow by itself. -/
theorem replaceConnections_again (inventory : Inventory) (flows : List Connection)
    : (inventory.replaceConnections flows).2.replaceConnections flows
      = inventory.replaceConnections flows := by
  have index (inventory : Inventory)
      : (inventory.replaceConnections flows).2.owners = inventory.owners :=
    owners_of_outline (outline_replaceConnections inventory flows)
  have devices
      : ((inventory.replaceConnections flows).2.replaceConnections flows).2.devices
        = (inventory.replaceConnections flows).2.devices := by
    refine SortedMap.ext_get? fun key => ?_
    rw [get?_replaceConnections, get?_replaceConnections, Option.map_map, flowsOf, index]
    rfl
  refine Prod.ext ?count ?later
  case count =>
    rw [(replaceConnections_carries _ flows).1, (replaceConnections_carries _ flows).1,
      knows_replaceConnections]
  case later =>
    calc
      ((inventory.replaceConnections flows).2.replaceConnections flows).2
      _ = ⟨(inventory.replaceConnections flows).2.devices,
            (inventory.replaceConnections flows).2.owners⟩ := by rw [← devices, ← index]
      _ = (inventory.replaceConnections flows).2 := rfl

end Inventory

namespace Store

-----------------------------------------------------------------------------------------
-- Summaries
-----------------------------------------------------------------------------------------

theorem numSessions_summaries (store : Store)
    : (store.summaries []).map (·.sessionDetail.numSessions)
      = (store.inventory.devices.values.map (·.record.connections.length)).map UInt64.ofNat := by
  simp only [summaries, Inventory.matching, List.all_nil, List.filter_true, List.map_map,
    SortedMap.values, SortedMap.toList]
  rfl

/-- The numbers of flows in the summaries add up to the number of all flows. -/
theorem sum_numSessions (store : Store)
    : ((store.summaries []).map (·.sessionDetail.numSessions)).foldl (· + ·) 0
      = .ofNat store.inventory.carried.length := by
  rw [numSessions_summaries, List.foldl_map, Inventory.carried, List.length_flatMap,
    List.sum_eq_foldl]
  exact List.foldl_hom UInt64.ofNat fun count length => (UInt64.ofNat_add count length).symm

/-- Where the flows of each device can be counted the numbers add up without a wrap. -/
theorem sum_toNat_numSessions {store : Store}
    (short
      : ∀ stored ∈ store.inventory.devices.values, stored.record.connections.length < UInt64.size)
    : ((store.summaries []).map (·.sessionDetail.numSessions.toNat)).sum
      = store.inventory.carried.length := by
  have counted (stored : StoredDevice) (among : stored ∈ store.inventory.devices.values)
      : (UInt64.ofNat stored.record.connections.length).toNat
        = stored.record.connections.length :=
    UInt64.toNat_ofNat'.trans (Nat.mod_eq_of_lt (short stored among))
  calc
    ((store.summaries []).map (·.sessionDetail.numSessions.toNat)).sum
    _ = (((store.summaries []).map (·.sessionDetail.numSessions)).map UInt64.toNat).sum := by
      rw [List.map_map]
      rfl
    _ = (store.inventory.devices.values.map (·.record.connections.length)).sum := by
      rw [numSessions_summaries, List.map_map, List.map_map]
      exact congrArg _ (List.map_congr_left counted)
    _ = store.inventory.carried.length := List.length_flatMap.symm

/-- A batch of flows replaces the flows of all devices. The count is that of the flows whose
client is found by its address; each device has the flows of the clients that the index gives to
it, in their order, and is as it was besides; together the devices have every known flow as often
as it came, each with one device; the same batch again changes nothing; and the sessions in the
summaries add up to the count.
-/
theorem replaceConnections_partitions (store : Store) (flows : List Connection)
    : let known := flows.filter fun flow => (store.byIp? flow.clientAddress).isSome
      ∃ inventory,
        store.replaceConnections flows = (known.length, { store with inventory })
        ∧ inventory.owners = store.inventory.owners
        ∧ (∀ key,
          inventory.devices.get? key
          = (store.inventory.devices.get? key).map fun stored =>
              { stored with
                record :=
                  { stored.record with
                    connections :=
                      flows.filter fun flow =>
                        store.inventory.owners.get? flow.clientAddress = some key } })
        ∧ (inventory.devices.values.flatMap (·.record.connections)).Perm known
        ∧ (∀ flow ∈ known,
          ∃! key, ∃ stored,
            inventory.devices.get? key = some stored ∧ flow ∈ stored.record.connections)
        ∧ replaceConnections flows { store with inventory }
          = (known.length, { store with inventory })
        ∧ ((summaries { store with inventory } []).map
            (·.sessionDetail.numSessions)).foldl (· + ·) 0
          = UInt64.ofNat known.length
        ∧ (flows.length < UInt64.size
          → ((summaries { store with inventory } []).map
              (·.sessionDetail.numSessions.toNat)).sum
            = known.length) := by
  intro known
  have knows : known = flows.filter store.inventory.knows := by
    refine List.filter_congr fun flow _ => ?_
    rw [byIp?, Inventory.byIp?, Option.isSome_map, Option.isSome_map, Inventory.knows]
  obtain ⟨count, carries⟩ := store.inventory.replaceConnections_carries flows
  rw [← knows] at count carries
  refine ⟨(store.inventory.replaceConnections flows).2, ?answer, ?index,
    store.inventory.get?_replaceConnections flows, carries, ?once, ?again, ?sessions, ?counted⟩
  case answer => exact congrArg (·, _) count
  case index => exact Inventory.owners_of_outline (Inventory.outline_replaceConnections _ flows)
  case once =>
    intro flow member
    obtain ⟨among, found⟩ := List.mem_filter.mp (knows ▸ member)
    obtain ⟨⟨owner, stored⟩, owned⟩ := Option.isSome_iff_exists.mp found
    simp only [Inventory.mem_connections_replaceConnections]
    refine ⟨owner, ⟨among, stored, owned⟩, ?_⟩
    rintro other ⟨-, _, there⟩
    exact congrArg Prod.fst (Option.some.inj (there.symm.trans owned))
  case again =>
    have same := store.inventory.replaceConnections_again flows
    simp only [replaceConnections, same, count]
  case sessions =>
    rw [sum_numSessions]
    exact congrArg _ carries.length_eq
  case counted =>
    intro short
    refine (sum_toNat_numSessions fun stored among => ?_).trans carries.length_eq
    obtain ⟨⟨key, stored⟩, entry, rfl⟩ := List.mem_map.mp among
    have found := SortedMap.get?_eq_some_iff.mpr entry
    rw [Inventory.get?_replaceConnections] at found
    obtain ⟨before, -, rfl⟩ := Option.map_eq_some_iff.mp found
    exact (List.length_filter_le _ flows).trans_lt short

/-- Of two devices that hold an address the one it belongs to gets its flows, a repeated one
twice, and a flow of an unknown client goes to none.
-/
theorem replaceConnections_partitions_repeated
    : let sighted (mac : String) : DeviceRecord :=
        { DeviceRecord.withMac mac with neigh := .singleton "10.0.0.5" default }
      let first := (empty (.fixed 1000) 0 0).step (.merge 0 (sighted "00:11:22:33:44:66"))
      let second := first.after.step (.merge 0 (sighted "00:11:22:33:44:55"))
      let flow : Connection := { (default : Connection) with clientAddress := "10.0.0.5" }
      let flows := [flow, { flow with clientAddress := "10.0.0.9" }, flow]
      ∃ inventory,
        second.after.replaceConnections flows = (2, { second.after with inventory })
        ∧ (inventory.devices.get? "00:11:22:33:44:55").map (·.record.connections)
          = some [flow, flow]
        ∧ (inventory.devices.get? "00:11:22:33:44:66").map (·.record.connections) = some []
        ∧ ((summaries { second.after with inventory } []).map
            (·.sessionDetail.numSessions.toNat)).sum
          = 2 := by
  intro sighted first second flow flows
  have known : (flows.filter fun flow => (second.after.byIp? flow.clientAddress).isSome).length
      = 2 := by
    decide +kernel
  obtain ⟨inventory, answer, -, lookups, -, -, -, -, counted⟩ :=
    second.after.replaceConnections_partitions flows
  rw [known] at answer counted
  have carries {key : String} {own : List Connection}
      (there : (second.after.inventory.devices.get? key).isSome = true)
      (kept
        : (flows.filter fun flow =>
            second.after.inventory.owners.get? flow.clientAddress = some key) = own)
      : (inventory.devices.get? key).map (·.record.connections) = some own := by
    obtain ⟨stored, present⟩ := Option.isSome_iff_exists.mp there
    rw [lookups, present, Option.map_some, Option.map_some, kept]
  exact ⟨inventory, answer, carries (by decide +kernel) (by decide +kernel),
    carries (by decide +kernel) (by decide +kernel), counted (by decide)⟩

end Store

end NetInventory
