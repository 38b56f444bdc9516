import NetInventory.Proofs.Ingest.Run
import NetInventory.Proofs.Store.Keys

/-! Sightings of one device never get into the record of another. A record comes into a device only
if one of the two has no hardware address or both have the same, so what a stored record holds was
said about its own device, or about one whose hardware address was not given.
-/

namespace NetInventory

-----------------------------------------------------------------------------------------
-- The sightings of a record
-----------------------------------------------------------------------------------------

/-- What collectors of one kind said of a device, each under the address it is kept by. -/
def DeviceRecord.sightingsOf (record : DeviceRecord) : SightingKind → SortedMap Sighting
  | .lldp => record.lldp.mapValues .lldp
  | .neigh => record.neigh.mapValues .neigh
  | .nmap => record.nmap.mapValues .nmap
  | .arp => record.arp.mapValues .arp

def DeviceRecord.sightings (record : DeviceRecord) : List (String × Sighting) :=
  [.lldp, .neigh, .nmap, .arp].flatMap fun kind => (record.sightingsOf kind).toList

/-- The sighting gives the hardware address, or it gives none. -/
def Sighting.SpeaksOf (sighting : Sighting) (mac : String) : Prop :=
  ∃ given, Mac.normalize sighting.mac = .ok given ∧ (given = "" ∨ given = mac)

/-- Every sighting is kept under its own address and was made of the device of the record. -/
def DeviceRecord.OwnSightings (record : DeviceRecord) : Prop :=
  ∀ ip sighting,
    (ip, sighting) ∈ record.sightings → sighting.ip = ip ∧ sighting.SpeaksOf record.macAddress

namespace DeviceRecord

variable {existing incoming record : DeviceRecord} {ip : String} {sighting : Sighting}

theorem mem_sightings
    : (ip, sighting) ∈ record.sightings
      ↔ ∃ kind, (record.sightingsOf kind).get? ip = some sighting := by
  simp only [sightings, SortedMap.toList, List.mem_flatMap, ← SortedMap.get?_eq_some_iff]
  constructor
  · rintro ⟨kind, -, found⟩
    exact ⟨kind, found⟩
  · rintro ⟨kind, found⟩
    exact ⟨kind, by cases kind <;> simp, found⟩

theorem get?_sightingsOf_merge (existing incoming : DeviceRecord) (kind : SightingKind)
    (ip : String)
    : ((existing.merge incoming).sightingsOf kind).get? ip
      = ((incoming.sightingsOf kind).get? ip).or ((existing.sightingsOf kind).get? ip) := by
  cases kind <;> simp [sightingsOf, merge, Option.map_or]

theorem mem_sightings_merge (member : (ip, sighting) ∈ (existing.merge incoming).sightings)
    : (ip, sighting) ∈ existing.sightings ∨ (ip, sighting) ∈ incoming.sightings := by
  obtain ⟨kind, found⟩ := mem_sightings.mp member
  rw [get?_sightingsOf_merge, Option.or_eq_some_iff] at found
  rcases found with new | ⟨-, old⟩
  · exact .inr (mem_sightings.mpr ⟨kind, new⟩)
  · exact .inl (mem_sightings.mpr ⟨kind, old⟩)

theorem sightings_ofSighting (made : ofSighting sighting = .ok record)
    : record.sightings = [(sighting.ip, sighting)] := by
  unfold ofSighting at made
  split at made
  next => simp at made
  next =>
    obtain rfl := Except.ok.inj made
    cases sighting <;> rfl

/-- An accepted record that one sighting made speaks of its own device. -/
theorem ownSightings_of_accept {raw : DeviceRecord} (made : ofSighting sighting = .ok raw)
    (accepted : Store.accept raw = .ok record)
    : record.OwnSightings := by
  obtain ⟨mac, normal, rfl, -, -⟩ := Store.accept_eq_ok accepted
  rw [(ofSighting_eq_ok made).1] at normal
  intro ip other member
  have alone : (ip, other) ∈ [(sighting.ip, sighting)] := sightings_ofSighting made ▸ member
  obtain ⟨rfl, rfl⟩ := Prod.mk.inj (List.mem_singleton.mp alone)
  exact ⟨rfl, mac, normal, .inr rfl⟩

/-- Two records of one device merge into one of that device: the merged record has the hardware
address of either side that has one.
-/
theorem OwnSightings.merge (old : existing.OwnSightings) (new : incoming.OwnSightings)
    (agree
      : incoming.macAddress = ""
        ∨ existing.macAddress = ""
        ∨ existing.macAddress = incoming.macAddress)
    : (existing.merge incoming).OwnSightings := by
  intro ip sighting member
  have named := macAddress_merge existing incoming
  rcases mem_sightings_merge member with before | after
  · obtain ⟨own, given, normal, unnamed | same⟩ := old ip sighting before
    · exact ⟨own, given, normal, .inl unnamed⟩
    · refine ⟨own, given, normal, ?_⟩
      rw [named, same]
      split
      next => exact .inr rfl
      next some => exact agree.resolve_left some
  · obtain ⟨own, given, normal, unnamed | same⟩ := new ip sighting after
    · exact ⟨own, given, normal, .inl unnamed⟩
    · refine ⟨own, given, normal, ?_⟩
      rw [named, same]
      split
      next none => exact .inl none
      next => exact .inr rfl

end DeviceRecord

-----------------------------------------------------------------------------------------
-- The sightings of an inventory
-----------------------------------------------------------------------------------------

/-- Every device stands under its own key and holds sightings of its own. -/
def Inventory.Uncontaminated : Inventory → Prop :=
  All fun key record => record.key? = some key ∧ record.OwnSightings

/-- A record and the device it resolves to do not have different hardware addresses. Witness: a
device with a hardware address stands under it.
-/
theorem Inventory.mac_of_resolve {inventory : Inventory} {mac key : String} {ips : List String}
    {stored : StoredDevice} (resolved : inventory.resolve mac ips = some key)
    (present : inventory.devices.get? key = some stored)
    (own : stored.record.key? = some key)
    : mac = "" ∨ stored.record.macAddress = "" ∨ stored.record.macAddress = mac := by
  obtain ⟨target, there, reason⟩ := resolve_eq_some resolved
  obtain rfl := Option.some.inj (present.symm.trans there)
  rcases reason with ⟨_, known⟩ | ⟨_, unnamed | unnamed⟩
  · by_cases named : stored.record.macAddress = ""
    · exact .inr (.inl named)
    · rw [DeviceRecord.key?_of_mac named, known] at own
      exact .inr (.inr (Option.some.inj own))
  · exact .inl unnamed
  · exact .inr (.inl unnamed)

theorem Store.Brought.uncontaminated {inventory next : Inventory} {record merged : DeviceRecord}
    {now : Int64} {usage : Tracker} {created : Bool}
    (brought : Brought inventory record now usage merged created next)
    (clean : inventory.Uncontaminated) (own : record.OwnSightings)
    : next.Uncontaminated := by
  cases brought with
  | added _ stamped keyed =>
      subst stamped
      exact clean.put ⟨keyed, own⟩
  | moved resolved taken stamped keyed =>
      -- The device that the record comes into is the same, or one of the two is unnamed.
      subst stamped
      have present := (Inventory.take_eq_some taken).1
      obtain ⟨under, before⟩ := clean _ _ present
      have agree := Inventory.mac_of_resolve resolved present under
      exact (clean.take taken).put ⟨keyed, before.merge own agree⟩

theorem Inventory.Uncontaminated.of_outline {inventory next : Inventory}
    (same : next.outline = inventory.outline) (clean : inventory.Uncontaminated)
    : next.Uncontaminated := by
  refine All.of_outline (fun {key left right} records own => ?_) same clean
  have keys : left.key? = right.key? := congrArg (·.key?) records
  have macs : left.macAddress = right.macAddress := congrArg (·.macAddress) records
  have all : left.sightings = right.sightings := congrArg (·.sightings) records
  simpa only [keys, DeviceRecord.OwnSightings, macs, all] using own

namespace Ingest

/-- Handling messages and pruning keep the inventory uncontaminated, by cases on what is handled. -/
theorem kept_uncontaminated
    : Kept (fun _ => True) fun _ ingest => ingest.store.inventory.Uncontaminated where
  handled _ way clean := by
    cases way with
    | unread _ => exact clean
    | refused _ _ => exact clean
    | merged read accepted brought =>
        obtain ⟨sighting, -, made⟩ := exists_sighting_of_read read
        exact brought.uncontaminated clean (DeviceRecord.ownSightings_of_accept made accepted)
    | connected _ => exact clean.of_outline (Inventory.outline_replaceConnections _ _)
    | counted _ _ => exact clean.of_outline (Inventory.outline_addUsage _ _ _ _)
    | uncounted _ _ => exact clean.of_outline (Inventory.outline_addUsage _ _ _ _)
  pruned {ingest _} clean := by
    obtain ⟨keys, inventory, -⟩ := exists_prune ingest
    rw [inventory]
    exact clean.takeAll keys

end Ingest

/-- In every run of ingestion from an empty store, whatever messages come in, each sighting of a
stored device is kept under its own address and gives the hardware address of that device, if any.
-/
theorem IngestActor.run_sightings (clock : Clock) (binInterval reach : Int)
    (config : IngestConfig) (events : List IngestEvent)
    : let last := ((create (.empty clock binInterval reach) config).performAll events).2
      ∀ key stored,
        last.ingest.store.inventory.devices.get? key = some stored
        → ∀ ip sighting,
          (ip, sighting) ∈ stored.record.sightings
          → sighting.ip = ip
            ∧ ∃ mac,
              Mac.normalize sighting.mac = .ok mac
              ∧ (mac = "" ∨ mac = stored.record.macAddress) := by
  intro last key stored present
  have start : Inventory.empty.Uncontaminated := Store.all_empty _
  have clean : last.ingest.store.inventory.Uncontaminated :=
    run_kept Ingest.kept_uncontaminated (.empty clock binInterval reach) config events start
      fun _ _ => trivial
  exact (clean key stored present).2

/-- A sighting without a hardware address and one with it make one device, which keeps both. -/
theorem IngestActor.run_sightings_joined
    : let unnamed : Sighting := .neigh ⟨"10.0.0.5", "", 0, "", ""⟩
      let events : List IngestEvent :=
        [.submit ⟨Topic.neigh.text, "[\"10.0.0.5\"]".toUTF8⟩,
          .submit ⟨Topic.arp.text, "[\"10.0.0.5\", \"00:11:22:33:44:55\"]".toUTF8⟩,
          .turn 0, .turn 0]
      let last := ((create (.empty (.fixed 0) 0 0) .standard).performAll events).2
      ∃ stored,
        last.ingest.store.inventory.devices.get? "00:11:22:33:44:55" = some stored
        ∧ ("10.0.0.5", unnamed) ∈ stored.record.sightings
        ∧ unnamed.ip = "10.0.0.5"
        ∧ ∃ mac,
          Mac.normalize unnamed.mac = .ok mac
          ∧ (mac = "" ∨ mac = stored.record.macAddress) := by
  intro unnamed events last
  have joined
      : (last.ingest.store.inventory.devices.get? "00:11:22:33:44:55").any
          (fun stored => ("10.0.0.5", unnamed) ∈ stored.record.sightings)
        = true := by
    decide +kernel
  obtain ⟨stored, present, listed⟩ := (Option.any_eq_true ..).mp joined
  have member := of_decide_eq_true listed
  refine ⟨stored, present, member, ?_⟩
  -- The run must not be run again to find the statement about it.
  clear_value events
  exact run_sightings (.fixed 0) 0 0 .standard events _ stored present _ unnamed member

end NetInventory
