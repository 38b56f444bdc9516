import NetInventory.Inventory
import NetInventory.Proofs.SortedMap

/-! The addresses of a record, and what becomes of them when records are merged. Sighted addresses
add up, and the address a record names itself is kept until another one is named; so a merged
record has every address of the incoming one and no address that neither side had.
-/

namespace NetInventory.DeviceRecord

-----------------------------------------------------------------------------------------
-- Addresses as a set
-----------------------------------------------------------------------------------------

/-- The sighted addresses are the keys of the four kinds of sightings. -/
theorem mem_sightedIps {record : DeviceRecord} {ip : String}
    : ip ∈ record.sightedIps
      ↔ ((ip ∈ record.neigh.keys ∨ ip ∈ record.lldp.keys) ∨ ip ∈ record.nmap.keys)
        ∨ ip ∈ record.arp.keys := by
  simp only [sightedIps, sightedIpSet, SortedMap.mem_keys_union, SortedMap.keys_mapValues]

/-- The addresses are the sighted ones and the one that the record names itself. -/
theorem mem_ips {record : DeviceRecord} {ip : String}
    : ip ∈ record.ips
      ↔ ip ∈ record.sightedIps ∨ (record.ipv4Address ≠ "" ∧ ip = record.ipv4Address) := by
  unfold ips ipSet sightedIps
  split
  next named => simp [String.isEmpty_iff.mp named]
  next named =>
    have nonempty : record.ipv4Address ≠ "" := mt String.isEmpty_iff.mpr named
    rw [SortedMap.mem_keys_insert]
    simp [nonempty, or_comm]

theorem ips_sorted (record : DeviceRecord) : record.ips.Pairwise (· < ·) :=
  SortedMap.keys_sorted _

theorem isEmpty_iff {record : DeviceRecord}
    : record.isEmpty = true ↔ record.macAddress = "" ∧ record.ips = [] := by
  simp [isEmpty, String.isEmpty_iff, List.isEmpty_iff]

/-- A record of one sighting has the addresses of the sighting and names no other. -/
theorem ofSighting_eq_ok {sighting : Sighting} {record : DeviceRecord}
    (made : ofSighting sighting = .ok record)
    : record.macAddress = sighting.mac
      ∧ record.ipv4Address = ""
      ∧ record.ips = [sighting.ip] := by
  unfold ofSighting at made
  split at made
  next => simp at made
  next =>
    obtain rfl := Except.ok.inj made
    cases sighting <;> exact ⟨rfl, rfl, rfl⟩

theorem exists_ofSighting {sighting : Sighting} (named : sighting.ip ≠ "")
    : ∃ record, ofSighting sighting = .ok record := by
  simp [ofSighting, String.isEmpty_iff, named]

-----------------------------------------------------------------------------------------
-- Addresses of merged records
-----------------------------------------------------------------------------------------

theorem laterText_eq (existing incoming : String)
    : laterText existing incoming = if incoming = "" then existing else incoming := by
  simp only [laterText, String.isEmpty_iff]

theorem macAddress_merge (existing incoming : DeviceRecord)
    : (existing.merge incoming).macAddress
      = if incoming.macAddress = "" then existing.macAddress else incoming.macAddress :=
  laterText_eq _ _

theorem ipv4Address_merge (existing incoming : DeviceRecord)
    : (existing.merge incoming).ipv4Address
      = if incoming.ipv4Address = "" then existing.ipv4Address else incoming.ipv4Address :=
  laterText_eq _ _

theorem mem_sightedIps_merge {existing incoming : DeviceRecord} {ip : String}
    : ip ∈ (existing.merge incoming).sightedIps
      ↔ ip ∈ existing.sightedIps ∨ ip ∈ incoming.sightedIps := by
  simp only [mem_sightedIps, merge, SortedMap.mem_keys_union]
  tauto

/-- A merged record has the addresses of the incoming one, those at which collectors saw the
existing one, and the address that the existing one named itself unless the incoming one names
another.
-/
theorem mem_ips_merge {existing incoming : DeviceRecord} {ip : String}
    : ip ∈ (existing.merge incoming).ips
      ↔ ip ∈ incoming.ips
        ∨ ip ∈ existing.sightedIps
        ∨ (incoming.ipv4Address = ""
          ∧ existing.ipv4Address ≠ ""
          ∧ ip = existing.ipv4Address) := by
  simp only [mem_ips, mem_sightedIps_merge, ipv4Address_merge]
  by_cases named : incoming.ipv4Address = ""
  · simp only [named, if_true, ne_eq, not_true_eq_false, false_and, or_false, true_and]
    tauto
  · simp only [named, if_false, ne_eq, not_false_eq_true, true_and, false_and, or_false]
    tauto

/-- Every address of the incoming record is one of the merged record. -/
theorem mem_ips_merge_of_incoming {existing incoming : DeviceRecord} {ip : String}
    (member : ip ∈ incoming.ips)
    : ip ∈ (existing.merge incoming).ips :=
  mem_ips_merge.mpr (.inl member)

/-- Every address of the existing record stays one unless the incoming record names another. -/
theorem mem_ips_merge_of_existing {existing incoming : DeviceRecord} {ip : String}
    (unnamed : incoming.ipv4Address = "") (member : ip ∈ existing.ips)
    : ip ∈ (existing.merge incoming).ips := by
  rcases mem_ips.mp member with sighted | own
  · exact mem_ips_merge.mpr (.inr (.inl sighted))
  · exact mem_ips_merge.mpr (.inr (.inr ⟨unnamed, own⟩))

/-- An address of a merged record comes from one of the two sides. -/
theorem mem_ips_of_mem_merge {existing incoming : DeviceRecord} {ip : String}
    (member : ip ∈ (existing.merge incoming).ips)
    : ip ∈ existing.ips ∨ ip ∈ incoming.ips := by
  rcases mem_ips_merge.mp member with new | sighted | ⟨-, own⟩
  · exact .inr new
  · exact .inl (mem_ips.mpr (.inl sighted))
  · exact .inl (mem_ips.mpr (.inr own))

-----------------------------------------------------------------------------------------
-- Keys
-----------------------------------------------------------------------------------------

theorem key?_of_mac {record : DeviceRecord} (named : record.macAddress ≠ "")
    : record.key? = some record.macAddress := by
  simp [key?, String.isEmpty_iff, named]

/-- A record without a hardware address has its first IP address as its key. -/
theorem key?_of_noMac {record : DeviceRecord} (unnamed : record.macAddress = "")
    : record.key? = record.ips.head? := by
  simp [key?, unnamed]

/-- The key of a record without a hardware address is the least of its IP addresses. -/
theorem key?_least {record : DeviceRecord} {key : String} (unnamed : record.macAddress = "")
    (found : record.key? = some key)
    : key ∈ record.ips ∧ ∀ ip ∈ record.ips, key ≤ ip := by
  rw [key?_of_noMac unnamed] at found
  obtain ⟨rest, shape⟩ := List.head?_eq_some_iff.mp found
  have sorted := record.ips_sorted
  rw [shape] at sorted ⊢
  refine ⟨List.mem_cons_self, fun ip member => ?_⟩
  rcases List.mem_cons.mp member with rfl | later
  · exact le_rfl
  · exact ((List.pairwise_cons.mp sorted).1 ip later).le

/-- The least of the IP addresses comes first. -/
theorem ips_eq_cons {record : DeviceRecord} {key : String} (member : key ∈ record.ips)
    (least : ∀ ip ∈ record.ips, key ≤ ip)
    : ∃ rest, record.ips = key :: rest := by
  have sorted := record.ips_sorted
  cases shape : record.ips with
  | nil => simp [shape] at member
  | cons first rest =>
      rw [shape] at member least sorted
      rcases List.mem_cons.mp member with rfl | later
      · exact ⟨rest, rfl⟩
      · have before := (List.pairwise_cons.mp sorted).1 key later
        exact absurd before (not_lt.mpr (least first List.mem_cons_self))

/-- Every record that is not empty has a key. -/
theorem exists_key {record : DeviceRecord} (nonempty : record.isEmpty = false)
    : ∃ key, record.key? = some key := by
  by_cases named : record.macAddress = ""
  · rw [key?_of_noMac named]
    have ips : record.ips ≠ [] := fun none => by simp [isEmpty_iff.mpr ⟨named, none⟩] at nonempty
    exact ⟨_, List.head?_eq_some_head ips⟩
  · exact ⟨_, key?_of_mac named⟩

/-- A record merged with one that is not empty is not empty. -/
theorem isEmpty_merge {existing incoming : DeviceRecord} (nonempty : incoming.isEmpty = false)
    : (existing.merge incoming).isEmpty = false := by
  by_contra empty
  obtain ⟨noMac, noIps⟩ := isEmpty_iff.mp (Bool.of_not_eq_false empty)
  have incomingNoMac : incoming.macAddress = "" := by
    by_contra named
    simp [macAddress_merge, named] at noMac
  have incomingNoIps : incoming.ips = [] := by
    refine List.eq_nil_iff_forall_not_mem.mpr fun ip member => ?_
    have kept : ip ∈ (existing.merge incoming).ips := mem_ips_merge_of_incoming member
    simp [noIps] at kept
  simp [isEmpty_iff.mpr ⟨incomingNoMac, incomingNoIps⟩] at nonempty

end NetInventory.DeviceRecord
