import NetInventory.Proofs.Store.Announcement
import NetInventory.Proofs.Store.Displacement

/-! Which records speak of new devices. The store asks its index alone; where every device stands
under its own key and the index is sound and complete, the answer is the one that a search over all
devices would give. The device that is announced is the device that is created.
-/

namespace NetInventory

/-- The alert names a hardware address and lists the addresses at which collectors saw the device of
a record, each of them once and in order.
-/
structure Alert.Announces (alert : Alert) (mac : String) (record : DeviceRecord) : Prop where
  named : alert.params.get? "macAddress" = some mac
  listed
    : ∃ ips : List String,
        ips.Pairwise (· < ·)
        ∧ (∀ ip,
          ip ∈ ips
          ↔ ip ∈ record.lldp.keys
            ∨ ip ∈ record.neigh.keys
            ∨ ip ∈ record.nmap.keys
            ∨ ip ∈ record.arp.keys)
        ∧ alert.params.get? "ips" = some (",".intercalate ips)

/-- The announcement of a record tells of it what the record says. -/
theorem Alert.announces_newDevice (record : DeviceRecord)
    : (newDevice record).Announces record.macAddress record where
  named := Alert.mac?_newDevice record
  listed := by
    refine ⟨record.sightedIps, record.sightedIpSet.keys_sorted, fun ip => ?_, ?_⟩
    · rw [DeviceRecord.mem_sightedIps]
      tauto
    · rw [newDevice, SortedMap.get?_insert]
      rfl

namespace Inventory

/-- No device is one that the record could speak of. A record with a hardware address speaks of the
device with that address, or of one without any to which one of its IP addresses belongs; a record
without one speaks of any device that holds one of its IP addresses.
-/
inductive Unfamiliar (inventory : Inventory) (record : DeviceRecord) : Prop
  | named
    (named : record.macAddress ≠ "")
    (unknown
      : ∀ key stored,
          inventory.devices.get? key = some stored
          → stored.record.macAddress ≠ record.macAddress)
    (refused
      : ∀ ip ∈ record.ips, ∀ key stored,
          inventory.owners.get? ip = some key
          → inventory.devices.get? key = some stored
          → stored.record.macAddress ≠ "")
  | unnamed
    (unnamed : record.macAddress = "")
    (unheld
      : ∀ key stored,
          inventory.devices.get? key = some stored
          → ∀ ip ∈ record.ips, ip ∉ stored.record.ips)

variable {inventory : Inventory} {record : DeviceRecord} {mac : String}

/-- A hardware address is the key of a device exactly if a device has it: a device without one
stands under an IP address, which does not read as a hardware address.
-/
theorem get?_eq_none_iff_unknown (keyed : inventory.Keyed)
    (plain : inventory.All fun _ stored => stored.Plain) (named : mac ≠ "")
    (address : Mac.isAddress mac = true)
    : inventory.devices.get? mac = none
      ↔ ∀ key stored,
        inventory.devices.get? key = some stored → stored.record.macAddress ≠ mac := by
  constructor
  · rintro absent key stored present rfl
    rw [keyed.key_of_mac present named] at present
    simp [absent] at present
  · intro unknown
    refine Option.eq_none_iff_forall_ne_some.mpr fun stored present => ?_
    have unnamed : stored.record.macAddress = "" := by
      by_contra own
      exact unknown mac stored present (keyed.key_of_mac present own).symm
    have holds := (DeviceRecord.key?_least unnamed (keyed mac stored present)).1
    have reads := plain mac stored present mac holds
    simp [address] at reads

/-- The index finds nothing exactly if a search over all devices finds nothing. Witness: an address
has an owner if a device holds it, and its owner holds it.
-/
theorem resolve_eq_none_iff_unfamiliar (keyed : inventory.Keyed) (indexed : inventory.Indexed)
    (plain : inventory.All fun _ stored => stored.Plain)
    (address : record.macAddress = "" ∨ Mac.isAddress record.macAddress = true)
    : inventory.resolve record.macAddress record.ips = none ↔ inventory.Unfamiliar record := by
  rw [resolve_eq_none_iff]
  simp only [owner?_eq_some]
  constructor
  · rintro ⟨absent, refuses⟩
    by_cases unnamed : record.macAddress = ""
    · refine .unnamed unnamed fun key stored present ip member holds => ?_
      obtain ⟨owner, owned⟩ := indexed.complete present holds
      obtain ⟨device, there, -⟩ := indexed.sound owned
      exact (refuses ip member owner device ⟨owned, there⟩).1 unnamed
    · have reads := address.resolve_left unnamed
      refine .named unnamed ?_ fun ip member key stored owned present =>
        (refuses ip member key stored ⟨owned, present⟩).2
      exact (get?_eq_none_iff_unknown keyed plain unnamed reads).mp (absent unnamed)
  · intro unfamiliar
    cases unfamiliar with
    | named named unknown refused =>
        have reads := address.resolve_left named
        refine ⟨fun _ => (get?_eq_none_iff_unknown keyed plain named reads).mpr unknown, ?_⟩
        rintro ip member key stored ⟨owned, present⟩
        exact ⟨named, refused ip member key stored owned present⟩
    | unnamed unnamed unheld =>
        refine ⟨fun named => absurd unnamed named, ?_⟩
        rintro ip member key stored ⟨owned, present⟩
        obtain ⟨device, there, holds⟩ := indexed.sound owned
        exact absurd holds (unheld key device there ip member)

end Inventory

namespace Store

variable {store : Store} {raw record : DeviceRecord}

/-- The outcome of a merge says that a device was created exactly if the record resolved to none,
and then the record is announced.
-/
theorem merge_announces (store : Store) (instant : Int) (accepted : accept raw = .ok record)
    : ∃ outcome next,
        store.merge instant raw = (.ok outcome, next)
        ∧ (outcome.created = true
          ↔ store.inventory.resolve record.macAddress record.ips = none)
        ∧ outcome.alert = if outcome.created then some (.newDevice record) else none := by
  obtain ⟨merged, created, next, brought, result⟩ :=
    mergeWith_of_accepted (fun _ _ => ()) true instant store () accepted
  refine ⟨_, _, by rw [merge, result], ?_, ?_⟩
  · simp [brought.created_eq]
  · simp only [if_true, due?_of_accept accepted, brought.created_eq]
    cases (store.inventory.resolve record.macAddress record.ips).isSome <;> rfl

/-- Every accepted record is announced exactly if it creates a device, and that is exactly if no
device in the store is one it could speak of. What is announced is its hardware address in normal
form and the addresses at which collectors saw it.
-/
theorem merge_announces_iff (instant : Int) (keyed : store.inventory.Keyed)
    (indexed : store.inventory.Indexed)
    (plain : store.inventory.All fun _ stored => stored.Plain)
    (accepted : accept raw = .ok record)
    : ∃ outcome next,
        store.merge instant raw = (.ok outcome, next)
        ∧ (outcome.alert.isSome = true ↔ outcome.created = true)
        ∧ (outcome.created = true ↔ store.inventory.Unfamiliar record)
        ∧ ∀ alert,
          outcome.alert = some alert
          → ∃ mac, Mac.normalize raw.macAddress = .ok mac ∧ alert.Announces mac raw := by
  obtain ⟨outcome, next, result, created, announced⟩ := merge_announces store instant accepted
  refine ⟨outcome, next, result, ?alerted, ?unfamiliar, ?content⟩
  case alerted =>
    rw [announced]
    cases outcome.created <;> simp
  case unfamiliar =>
    rw [created]
    exact Inventory.resolve_eq_none_iff_unfamiliar keyed indexed plain (mac_of_accept accepted)
  case content =>
    intro alert due
    rw [announced, Option.ite_none_right_eq_some] at due
    obtain rfl := Option.some.inj due.2
    obtain ⟨mac, normal, rfl, -⟩ := accept_eq_ok accepted
    have announces := Alert.announces_newDevice { raw with macAddress := mac }
    exact ⟨mac, normal, announces.named, announces.listed⟩

/-- A device is announced although one of its addresses belongs to another device, since that one
has a hardware address of its own.
-/
theorem merge_announces_iff_shared
    : let known : DeviceRecord :=
        { DeviceRecord.withMac "00:11:22:33:44:55" with
          neigh := .singleton "10.0.0.5" default }
      let shared : DeviceRecord :=
        { DeviceRecord.withMac "00:11:22:33:44:66" with
          neigh := .singleton "10.0.0.5" default
          arp := .singleton "10.0.0.6" default }
      let first := (empty (.fixed 1000) 0 0).step (.merge 0 known)
      ∃ outcome next alert,
        first.after.merge 0 shared = (.ok outcome, next)
        ∧ outcome.alert = some alert
        ∧ alert.Announces "00:11:22:33:44:66" shared
        ∧ first.after.inventory.Unfamiliar shared := by
  intro known shared first
  have run : Run (empty (.fixed 1000) 0 0) [first] first.after := .step .done
  have consistent := run.consistent_of_records (by decide +kernel)
  have normal : Mac.normalize "00:11:22:33:44:66" = .ok "00:11:22:33:44:66" := rfl
  have accepted : accept shared = .ok shared :=
    accept_of_normal normal (by decide +kernel) (by decide +kernel)
  obtain ⟨outcome, next, result, alerted, unfamiliar, content⟩ :=
    merge_announces_iff 0 consistent.regular.keyed consistent.indexed
      (fun key stored present => (consistent.regular.plain key stored present).2) accepted
  have new : (first.after.merge 0 shared).1.toOption.map (·.created) = some true := by
    decide +kernel
  rw [result] at new
  have created := Option.some.inj new
  obtain ⟨alert, due⟩ := Option.isSome_iff_exists.mp (alerted.mpr created)
  obtain ⟨mac, same, announces⟩ := content alert due
  obtain rfl := Except.ok.inj (same.symm.trans normal)
  exact ⟨outcome, next, alert, result, due, announces, unfamiliar.mp created⟩

end Store

end NetInventory
