import NetInventory.Proofs.Ingest.Handling
import NetInventory.Proofs.Inventory.Traffic
import NetInventory.Proofs.Reporting
import NetInventory.Proofs.Store.Displacement

/-! Traffic of sighted addresses. A sighting is published in upper case and traffic is published as
it is reported, and the index compares addresses letter by letter. So what is reported reaches the
device that was sighted if its address has no small letters, and is lost if it has some.
-/

namespace NetInventory

namespace Ingest

variable {ingest : Ingest} {ip key mac : String} {sighting : Sighting}

-----------------------------------------------------------------------------------------
-- Reports by address
-----------------------------------------------------------------------------------------

/-- What is reported for an address reaches the device under a key: traffic is counted for the
device, and flows of the address are attached to it.
-/
structure Takes (ingest : Ingest) (ip key : String) : Prop where
  counted
    : ∀ instant amount,
        let next := (ingest.handle instant (.ofUsage ⟨ip, amount⟩)).2
        next.stats
          = { ingest.stats with
              received := ingest.stats.received + 1
              trafficUpdates := ingest.stats.trafficUpdates + 1 }
        ∧ ∃ stored,
          ingest.store.inventory.devices.get? key = some stored
          ∧ next.store.inventory.devices.get? key
            = some { stored with usage := stored.usage.add amount instant }
  attached
    : ∀ instant flows flow,
        flow ∈ flows
        → flow.clientAddress = ip
        → ∃ stored,
          (ingest.handle instant (.ofConnections flows)).2.store.inventory.devices.get? key
            = some stored
          ∧ flow ∈ stored.record.connections

theorem handle_ofConnections (ingest : Ingest) (instant : Int) (flows : List Connection)
    : ((ingest.handle instant (.ofConnections flows)).2).store.inventory
      = (ingest.store.inventory.replaceConnections flows).2 := by
  rw [handle, Inbound.ofMessage_ofConnections]
  rfl

/-- Traffic of an address that belongs to no device is rejected and has no other effect. -/
theorem handle_ofUsage_of_unowned (unowned : ingest.store.inventory.owner? ip = none)
    (instant : Int) (amount : Amount)
    : ingest.handle instant (.ofUsage ⟨ip, amount⟩)
      = ([], ingest.count fun s =>
          { s with received := s.received + 1, rejected := s.rejected + 1 }) := by
  simp only [handle, Inbound.ofMessage_ofUsage, apply, count, Store.addUsage,
    Inventory.addUsage_of_unowned unowned]
  rfl

/-- Reports for an address reach the device that the address belongs to, and no other. Witness: a
single flow is attached to the owner of its address only.
-/
theorem takes_iff
    : ingest.Takes ip key
      ↔ ∃ stored, ingest.store.inventory.owner? ip = some (key, stored) := by
  constructor
  · intro takes
    obtain ⟨stored, present, -⟩ := (takes.counted 0 .zero).2
    let flow : Connection := { (default : Connection) with clientAddress := ip }
    obtain ⟨later, found, member⟩ := takes.attached 0 [flow] flow (List.mem_singleton_self _) rfl
    rw [handle_ofConnections, Inventory.get?_replaceConnections, present, Option.map_some] at found
    rw [← Option.some.inj found] at member
    have owned := (Inventory.mem_flowsOf.mp member).2
    exact ⟨stored, Inventory.owner?_eq_some.mpr ⟨owned, present⟩⟩
  · rintro ⟨stored, owner⟩
    obtain ⟨owned, present⟩ := Inventory.owner?_eq_some.mp owner
    constructor
    case counted =>
      intro instant amount
      obtain ⟨found, devices⟩ := Inventory.get?_addUsage owner amount instant key
      rw [if_pos rfl] at devices
      simp only [handle, Inbound.ofMessage_ofUsage, apply, count, Store.addUsage, found, if_true]
      exact ⟨trivial, stored, present, devices⟩
    case attached =>
      rintro instant flows flow member rfl
      rw [handle_ofConnections, Inventory.get?_replaceConnections, present, Option.map_some]
      exact ⟨_, rfl, Inventory.mem_flowsOf.mpr ⟨member, owned⟩⟩

-----------------------------------------------------------------------------------------
-- Reports after a sighting
-----------------------------------------------------------------------------------------

/-- A sighting with an IP address and a hardware address is merged, in upper case. -/
theorem exists_brought_of_sighting (ingest : Ingest) (instant : Int) (named : sighting.ip ≠ "")
    (normal : Mac.normalize sighting.mac = .ok mac) (given : mac ≠ "")
    (nonzero : Mac.isZero mac = false)
    : let seen := (ingest.handle instant (.ofSighting sighting)).2
      seen.stats.merged = ingest.stats.merged + 1
      ∧ ∃ record merged now usage created,
        record.macAddress = mac
        ∧ record.ips = [Text.toUpper sighting.ip]
        ∧ Store.Brought ingest.store.inventory record now usage merged created
          seen.store.inventory := by
  have remains : sighting.normalize.ip ≠ "" := by
    rw [sighting.ip_normalize]
    exact Text.toUpper_ne_empty named
  obtain ⟨raw, made⟩ := DeviceRecord.exists_ofSighting remains
  obtain ⟨rawMac, -, ips⟩ := DeviceRecord.ofSighting_eq_ok made
  have accepted : Store.accept raw = .ok { raw with macAddress := mac } := by
    refine Store.accept_of_normalize ?_ nonzero ?_
    · rw [rawMac, sighting.mac_normalize]
      exact Mac.normalize_toUpper normal
    · exact Bool.eq_false_iff.mpr fun empty => given (DeviceRecord.isEmpty_iff.mp empty).1
  have message : Inbound.ofMessage (.ofSighting sighting) = .ok (.sighting raw) := by
    rw [Inbound.ofMessage_ofSighting, made]
    rfl
  -- Of the ways in which messages are handled, only a merge of this record is left.
  have way := handled_handle instant (.ofSighting sighting) ingest
  generalize (ingest.handle instant (.ofSighting sighting)).1 = effects at way
  generalize (ingest.handle instant (.ofSighting sighting)).2 = seen at way
  cases way with
  | @merged other record merged created next read taken brought =>
      obtain rfl : raw = other := by simpa [message] using read
      obtain rfl := Except.ok.inj (accepted.symm.trans taken)
      have recordIps : ({ raw with macAddress := mac } : DeviceRecord).ips
          = [Text.toUpper sighting.ip] := by
        rw [← sighting.ip_normalize, ← ips]
        rfl
      exact ⟨rfl, _, merged, _, _, created, rfl, recordIps, brought⟩
  | @refused other error read refused =>
      obtain rfl : raw = other := by simpa [message] using read
      simp [accepted] at refused
  | unread read | connected read | counted read _ | uncounted read _ => simp [message] at read

/-- A sighting with a hardware address is merged into the device of that address, and what is
reported then for any address of the device reaches it. The address of the sighting is one of them
in upper case. As it was given it reaches the device exactly if the index has it under the device,
so always if it has no small letters; if it has some and nobody had it before, its traffic is
rejected.
-/
theorem traffic_of_sighted (ingest : Ingest) (instant : Int) {sighting : Sighting}
    {mac : String} (named : sighting.ip ≠ "") (normal : Mac.normalize sighting.mac = .ok mac)
    (given : mac ≠ "") (nonzero : Mac.isZero mac = false)
    : let seen := (ingest.handle instant (.ofSighting sighting)).2
      seen.stats.merged = ingest.stats.merged + 1
      ∧ (∃ stored,
        seen.store.inventory.devices.get? mac = some stored
        ∧ Text.toUpper sighting.ip ∈ stored.record.ips
        ∧ ∀ ip ∈ stored.record.ips, seen.Takes ip mac)
      ∧ (Text.toUpper sighting.ip = sighting.ip → seen.Takes sighting.ip mac)
      ∧ (seen.Takes sighting.ip mac
        ↔ seen.store.inventory.owners.get? sighting.ip = some mac)
      ∧ (Text.toUpper sighting.ip ≠ sighting.ip
        → ingest.store.inventory.owners.get? sighting.ip = none
        → (∀ key stored,
          ingest.store.inventory.devices.get? key = some stored
          → sighting.ip ∉ stored.record.ips)
        → ∀ later amount,
          seen.handle later (.ofUsage ⟨sighting.ip, amount⟩)
          = ([], seen.count fun s =>
              { s with received := s.received + 1, rejected := s.rejected + 1 })) := by
  obtain ⟨counted, record, merged, now, usage, created, recordMac, recordIps, brought⟩ :=
    exists_brought_of_sighting ingest instant named normal given nonzero
  generalize (ingest.handle instant (.ofSighting sighting)).2 = seen at counted brought ⊢
  -- The device stands under the hardware address and owns what addresses it has.
  have keyed : merged.key? = some mac := by
    have mergedMac : merged.macAddress = mac :=
      (brought.mac_of_named (recordMac ▸ given)).trans recordMac
    rw [DeviceRecord.key?_of_mac (mergedMac ▸ given), mergedMac]
  obtain ⟨key, stored, own, found, held, -⟩ := brought.get?_key
  obtain rfl := Option.some.inj (keyed.symm.trans own)
  have reach (ip : String) (member : ip ∈ stored.record.ips) : seen.Takes ip mac := by
    have owned := brought.owners_of_mem (held ▸ member)
    exact takes_iff.mpr ⟨stored, Inventory.owner?_eq_some.mpr ⟨owned.trans keyed, found⟩⟩
  have upper : Text.toUpper sighting.ip ∈ stored.record.ips := by
    rw [held]
    exact brought.mem_ips (by simp [recordIps])
  refine ⟨counted, ⟨stored, found, upper, reach⟩, ?same, ?exactly, ?lost⟩
  case same =>
    intro same
    exact reach sighting.ip (same ▸ upper)
  case exactly =>
    constructor
    · intro takes
      obtain ⟨_, owner⟩ := takes_iff.mp takes
      exact (Inventory.owner?_eq_some.mp owner).1
    · intro owned
      exact takes_iff.mpr ⟨stored, Inventory.owner?_eq_some.mpr ⟨owned, found⟩⟩
  case lost =>
    intro differs unowned unheld later amount
    have absent : sighting.ip ∉ record.ips := by simpa [recordIps] using Ne.symm differs
    have unknown := brought.owners_of_unknown absent unowned unheld
    exact handle_ofUsage_of_unowned (by simp [Inventory.owner?, unknown]) later amount

theorem traffic_of_sighted_ipv4
    : let sighting : Sighting := .neigh ⟨"10.0.0.5", "aa:bb:cc:dd:ee:ff", 0, "REACHABLE", "eth0"⟩
      let seen :=
        ((create (.standard (.fixed 1000)) 0).handle 0 (.ofSighting sighting)).2
      sighting.ip ≠ ""
      ∧ Mac.normalize sighting.mac = .ok "aa:bb:cc:dd:ee:ff"
      ∧ Mac.isZero "aa:bb:cc:dd:ee:ff" = false
      ∧ Text.toUpper sighting.ip = sighting.ip
      ∧ seen.Takes "10.0.0.5" "aa:bb:cc:dd:ee:ff" := by
  intro sighting seen
  have named : sighting.ip ≠ "" := by decide
  have normal : Mac.normalize sighting.mac = .ok "aa:bb:cc:dd:ee:ff" := by decide +kernel
  have nonzero : Mac.isZero "aa:bb:cc:dd:ee:ff" = false := by decide
  have same : Text.toUpper sighting.ip = sighting.ip := by decide +kernel
  obtain ⟨-, -, reaches, -⟩ :=
    traffic_of_sighted (create (.standard (.fixed 1000)) 0) 0 named normal (by decide) nonzero
  exact ⟨named, normal, nonzero, same, reaches same⟩

/-- A device is sighted at an IPv6 address with small letters, and traffic of the address is
rejected: the device has the address in capital letters.
-/
theorem traffic_of_sighted_ipv6_lost
    : let sighting : Sighting := .neigh ⟨"fe80::1", "aa:bb:cc:dd:ee:ff", 0, "REACHABLE", "eth0"⟩
      let seen :=
        ((create (.standard (.fixed 1000)) 0).handle 0 (.ofSighting sighting)).2
      let next := (seen.handle 0 (.ofUsage ⟨"fe80::1", ⟨7, 0⟩⟩)).2
      sighting.ip ≠ ""
      ∧ Mac.normalize sighting.mac = .ok "aa:bb:cc:dd:ee:ff"
      ∧ Mac.isZero "aa:bb:cc:dd:ee:ff" = false
      ∧ next.stats.rejected = seen.stats.rejected + 1
      ∧ next.stats.trafficUpdates = seen.stats.trafficUpdates
      ∧ ¬ seen.Takes sighting.ip "aa:bb:cc:dd:ee:ff" := by
  intro sighting seen next
  have named : sighting.ip ≠ "" := by decide
  have normal : Mac.normalize sighting.mac = .ok "aa:bb:cc:dd:ee:ff" := by decide +kernel
  have nonzero : Mac.isZero "aa:bb:cc:dd:ee:ff" = false := by decide
  obtain ⟨-, record, merged, now, usage, created, -, recordIps, brought⟩ :=
    exists_brought_of_sighting (create (.standard (.fixed 1000)) 0) 0 named normal (by decide)
      nonzero
  have capitals : Text.toUpper sighting.ip = "FE80::1" := by decide +kernel
  have unknown : seen.store.inventory.owners.get? "fe80::1" = none :=
    brought.owners_of_unknown (by simp [recordIps, capitals]) rfl
      fun key stored found => by
        simp [create, Store.standard, Store.empty, Inventory.empty] at found
  have unowned : seen.store.inventory.owner? "fe80::1" = none := by
    simp [Inventory.owner?, unknown]
  have rejected : next = _ := congrArg Prod.snd (handle_ofUsage_of_unowned unowned 0 ⟨7, 0⟩)
  refine ⟨named, normal, nonzero, by rw [rejected]; rfl, by rw [rejected]; rfl, fun takes => ?_⟩
  obtain ⟨stored, owner⟩ := takes_iff.mp takes
  exact absurd (unowned.symm.trans owner) (by simp)

end Ingest

end NetInventory
