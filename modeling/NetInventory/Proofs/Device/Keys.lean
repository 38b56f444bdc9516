import Mathlib.Data.Finset.Lattice.Lemmas
import NetInventory.Proofs.Device.Addresses

/-! The addresses and the key of a merged record. Addresses at which collectors saw a device add up,
and of the addresses that the two records name themselves the later one counts; so the only address
that merging can lose is the one that the existing record named. Without hardware addresses the key
is the least of the addresses, and where none is lost the key of the merged record is the lesser of
the two keys.
-/

namespace NetInventory.DeviceRecord

variable {record existing incoming : DeviceRecord} {key other : String}

-----------------------------------------------------------------------------------------
-- Addresses
-----------------------------------------------------------------------------------------

theorem toFinset_sightedIps_merge (existing incoming : DeviceRecord)
    : (existing.merge incoming).sightedIps.toFinset
      = existing.sightedIps.toFinset ∪ incoming.sightedIps.toFinset := by
  ext ip
  simp only [Finset.mem_union, List.mem_toFinset, mem_sightedIps_merge]

/-- The address that a record names itself comes to the sighted ones, if it names one. -/
theorem toFinset_ips (record : DeviceRecord)
    : record.ips.toFinset
      = record.sightedIps.toFinset
        ∪ (if record.ipv4Address = "" then ∅ else {record.ipv4Address}) := by
  ext ip
  rw [List.mem_toFinset, mem_ips]
  split
  next unnamed => simp [unnamed]
  next named => simp [named, or_comm]

/-- An address of the existing record that is lost is the one that it named itself. -/
theorem eq_ipv4Address_of_lost {ip : String} (member : ip ∈ existing.ips)
    (lost : ip ∉ (existing.merge incoming).ips)
    : ip = existing.ipv4Address := by
  rcases mem_ips.mp member with sighted | ⟨-, own⟩
  · exact absurd (mem_ips_merge.mpr (.inr (.inl sighted))) lost
  · exact own

-----------------------------------------------------------------------------------------
-- Keys
-----------------------------------------------------------------------------------------

/-- The records that have a key are those that are not empty. -/
theorem isSome_key?_iff : record.key?.isSome = true ↔ record.isEmpty = false := by
  constructor
  · intro found
    by_contra empty
    obtain ⟨unnamed, none⟩ := isEmpty_iff.mp (Bool.of_not_eq_false empty)
    simp [key?_of_noMac unnamed, none] at found
  · intro nonempty
    obtain ⟨key, found⟩ := exists_key nonempty
    simp [found]

/-- A record with which one is merged that is not empty does not become empty: an address that it
loses makes room for another one.
-/
theorem isEmpty_merge_of_existing (nonempty : existing.isEmpty = false)
    : (existing.merge incoming).isEmpty = false := by
  by_contra empty
  obtain ⟨noMac, noIps⟩ := isEmpty_iff.mp (Bool.of_not_eq_false empty)
  have existingNoMac : existing.macAddress = "" := by
    by_contra named
    by_cases silent : incoming.macAddress = "" <;>
      simp [macAddress_merge, silent, named] at noMac
  have unnamed : incoming.ipv4Address = "" := by
    by_contra named
    have own : incoming.ipv4Address ∈ incoming.ips := mem_ips.mpr (.inr ⟨named, rfl⟩)
    have kept : incoming.ipv4Address ∈ (existing.merge incoming).ips :=
      mem_ips_merge_of_incoming own
    simp [noIps] at kept
  have existingNoIps : existing.ips = [] := by
    refine List.eq_nil_iff_forall_not_mem.mpr fun ip member => ?_
    simpa [noIps] using mem_ips_merge_of_existing unnamed member
  simp [isEmpty_iff.mpr ⟨existingNoMac, existingNoIps⟩] at nonempty

/-- The key of a record without a hardware address is the least of its addresses. -/
theorem key?_eq_some_iff_least (unnamed : record.macAddress = "")
    : record.key? = some key ↔ key ∈ record.ips ∧ ∀ ip ∈ record.ips, key ≤ ip := by
  refine ⟨key?_least unnamed, fun ⟨member, least⟩ => ?_⟩
  obtain ⟨rest, shape⟩ := ips_eq_cons member least
  rw [key?_of_noMac unnamed, shape, List.head?_cons]

/-- Where no record has a hardware address and no address is lost, the lesser key counts. -/
theorem key?_merge_of_noMac (existingNoMac : existing.macAddress = "")
    (incomingNoMac : incoming.macAddress = "") (unnamed : incoming.ipv4Address = "")
    (existingKey : existing.key? = some key) (incomingKey : incoming.key? = some other)
    : (existing.merge incoming).key? = some (min key other) := by
  obtain ⟨keyMember, keyLeast⟩ := key?_least existingNoMac existingKey
  obtain ⟨otherMember, otherLeast⟩ := key?_least incomingNoMac incomingKey
  have noMac : (existing.merge incoming).macAddress = "" := by
    simp [macAddress_merge, existingNoMac, incomingNoMac]
  refine (key?_eq_some_iff_least noMac).mpr ⟨?_, fun ip member => ?_⟩
  · rcases min_choice key other with same | same
    · rw [same]
      exact mem_ips_merge_of_existing unnamed keyMember
    · rw [same]
      exact mem_ips_merge_of_incoming otherMember
  · rcases mem_ips_of_mem_merge member with old | new
    · exact (min_le_left _ _).trans (keyLeast ip old)
    · exact (min_le_right _ _).trans (otherLeast ip new)

-----------------------------------------------------------------------------------------
-- Merged records
-----------------------------------------------------------------------------------------

/-- Sighted addresses add up, and of the addresses that two records name themselves the incoming
record's counts if it names one. So every address of the incoming record is there, at most the one
that the existing record named itself is lost, there is a key if either record has one, and it is
the lesser of the two keys if no record has a hardware address and the incoming one names no address
itself.
-/
theorem merge_addresses (existing incoming : DeviceRecord)
    : let merged := existing.merge incoming
      let sighted := existing.sightedIps.toFinset ∪ incoming.sightedIps.toFinset
      merged.sightedIps.toFinset = sighted
      ∧ merged.ips.toFinset
        = sighted
          ∪ (if incoming.ipv4Address ≠ "" then {incoming.ipv4Address}
            else if existing.ipv4Address ≠ "" then {existing.ipv4Address}
            else ∅)
      ∧ incoming.ips ⊆ merged.ips
      ∧ (∀ ip ∈ existing.ips, ip ∉ merged.ips → ip = existing.ipv4Address)
      ∧ (existing.key?.isSome ∨ incoming.key?.isSome → merged.key?.isSome)
      ∧ (∀ key other,
        existing.macAddress = ""
        → incoming.macAddress = ""
        → existing.key? = some key
        → incoming.key? = some other
        → incoming.ipv4Address = ""
        → merged.key? = some (min key other)) := by
  intro merged sighted
  refine ⟨toFinset_sightedIps_merge existing incoming, ?_,
    fun _ member => mem_ips_merge_of_incoming member,
    fun _ member lost => eq_ipv4Address_of_lost member lost, ?_, ?_⟩
  · rw [toFinset_ips, toFinset_sightedIps_merge, ipv4Address_merge]
    by_cases named : incoming.ipv4Address = "" <;> simp [named, sighted]
  · simp only [isSome_key?_iff]
    rintro (nonempty | nonempty)
    · exact isEmpty_merge_of_existing nonempty
    · exact isEmpty_merge nonempty
  · intro key other existingNoMac incomingNoMac existingKey incomingKey unnamed
    exact key?_merge_of_noMac existingNoMac incomingNoMac unnamed existingKey incomingKey

/-- A record keeps its key, which is its own address, when another one with a greater key comes in.
When one comes in that names another address itself, its own one is lost and its key moves up.
-/
theorem merge_addresses_renamed
    : let existing : DeviceRecord :=
        { blank with ipv4Address := "10.0.0.1", neigh := .singleton "10.0.0.5" default }
      let seen : DeviceRecord := { blank with lldp := .singleton "10.0.0.3" default }
      let renamed : DeviceRecord := { blank with ipv4Address := "10.0.0.9" }
      existing.key? = some "10.0.0.1"
      ∧ seen.key? = some "10.0.0.3"
      ∧ (existing.merge seen).key? = some (min "10.0.0.1" "10.0.0.3")
      ∧ "10.0.0.1" ∈ existing.ips
      ∧ "10.0.0.1" ∉ (existing.merge renamed).ips
      ∧ "10.0.0.1" = existing.ipv4Address
      ∧ (existing.merge renamed).key?.isSome
      ∧ (existing.merge renamed).key? = some "10.0.0.5" := by
  intro existing seen renamed
  have key : existing.key? = some "10.0.0.1" := by decide
  have other : seen.key? = some "10.0.0.3" := by decide
  have member : "10.0.0.1" ∈ existing.ips := by decide
  have gone : "10.0.0.1" ∉ (existing.merge renamed).ips := by decide
  obtain ⟨-, -, -, -, -, lesser⟩ := merge_addresses existing seen
  obtain ⟨-, -, -, lost, kept, -⟩ := merge_addresses existing renamed
  exact ⟨key, other, lesser _ _ rfl rfl key other rfl, member, gone, lost _ member gone,
    kept (.inl (by rw [key]; rfl)), by decide⟩

end NetInventory.DeviceRecord
