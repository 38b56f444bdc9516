import NetInventory.Proofs.Reporting
import NetInventory.Proofs.Store.Bring

/-! Under which hardware address a sighting is filed, as it is and as it is published. The upper
case in which sightings are published makes no difference, unless ligatures become digits: then a
sighting is filed under an address that it does not name.
-/

namespace NetInventory

/-- The sighting is taken in, and the record that comes of it has the hardware address; an empty
text stands for none.
-/
def Sighting.FiledUnder (mac : String) (sighting : Sighting) : Prop :=
  ∃ raw record,
    DeviceRecord.ofSighting sighting = .ok raw
    ∧ Store.accept raw = .ok record
    ∧ record.macAddress = mac

namespace Sighting

variable {sighting : Sighting} {mac : String}

/-- A sighting with an IP address is filed under the normal form of its hardware address, unless
that is the one that stands for an unknown one.
-/
theorem filedUnder_iff
    : sighting.FiledUnder mac
      ↔ sighting.ip ≠ "" ∧ Mac.normalize sighting.mac = .ok mac ∧ mac ≠ Mac.zero := by
  constructor
  · intro filed
    obtain ⟨raw, record, made, accepted, same⟩ := filed
    obtain ⟨given, -, -⟩ := DeviceRecord.ofSighting_eq_ok made
    obtain ⟨normal, read, rfl, nonzero, -⟩ := Store.accept_eq_ok accepted
    obtain rfl : normal = mac := same
    refine ⟨?_, given ▸ read, of_decide_eq_false nonzero⟩
    intro unnamed
    simp [DeviceRecord.ofSighting, unnamed] at made
  · intro normal
    obtain ⟨named, read, nonzero⟩ := normal
    obtain ⟨raw, made⟩ := DeviceRecord.exists_ofSighting named
    obtain ⟨given, -, ips⟩ := DeviceRecord.ofSighting_eq_ok made
    have nonzero : Mac.isZero mac = false := decide_eq_false nonzero
    refine ⟨raw, _, made, Store.accept_of_normalize (given ▸ read) nonzero ?_, rfl⟩
    have somewhere : ({ raw with macAddress := mac } : DeviceRecord).ips = [sighting.ip] := ips
    exact Bool.eq_false_iff.mpr fun empty => by
      simp [(DeviceRecord.isEmpty_iff.mp empty).2] at somewhere

/-- The published sighting names an IP address if the sighting does. -/
theorem ip_normalize_ne_empty_iff : sighting.normalize.ip ≠ "" ↔ sighting.ip ≠ "" := by
  rw [sighting.ip_normalize]
  refine ⟨fun named unnamed => named ?_, Text.toUpper_ne_empty⟩
  rw [unnamed]
  rfl

/-- The published sighting has the hardware address of the sighting, and if that has none but for
ligatures it has the one with two digits for each of them.
-/
theorem mac_normalize_eq_ok_iff
    : Mac.normalize sighting.normalize.mac = .ok mac
      ↔ Mac.normalize sighting.mac = .ok mac
        ∨ Mac.Ligated sighting.mac
          ∧ Mac.lowerCase (Mac.spellOut (Text.trim sighting.mac)) = mac := by
  rw [sighting.mac_normalize]
  exact Mac.normalize_toUpper_eq_ok_iff

/-- Publishing a sighting leaves it the hardware address that it has, or none, and what it is filed
under, as long as there is no address in the text but for ligatures. If there is one, the sighting
is refused as it is, and as it is published it has the address with two digits for each ligature.
-/
theorem normalize_keepsMac_iff (sighting : Sighting)
    : ((∀ mac,
          Mac.normalize sighting.normalize.mac = .ok mac ↔ Mac.normalize sighting.mac = .ok mac)
        ↔ ¬ Mac.Ligated sighting.mac)
      ∧ ((∀ mac, sighting.normalize.FiledUnder mac ↔ sighting.FiledUnder mac)
        ↔ sighting.ip = "" ∨ ¬ Mac.Ligated sighting.mac)
      ∧ (Mac.Ligated sighting.mac
        → Mac.normalize sighting.mac = .error (Text.trim sighting.mac)
          ∧ Mac.normalize sighting.normalize.mac
            = .ok (Mac.lowerCase (Mac.spellOut (Text.trim sighting.mac)))) := by
  have misread (ligated : Mac.Ligated sighting.mac)
      : Mac.normalize sighting.mac = .error (Text.trim sighting.mac) :=
    Mac.normalize_of_ligature ligated.1
  have unlike (ligated : Mac.Ligated sighting.mac) (mac : String)
      : Mac.normalize sighting.mac ≠ .ok mac := by
    rw [misread ligated]
    exact nofun
  have spelled (ligated : Mac.Ligated sighting.mac)
      : Mac.normalize sighting.normalize.mac
        = .ok (Mac.lowerCase (Mac.spellOut (Text.trim sighting.mac))) :=
    mac_normalize_eq_ok_iff.mpr (.inr ⟨ligated, rfl⟩)
  refine ⟨⟨?_, ?_⟩, ⟨?_, ?_⟩, fun ligated => ⟨misread ligated, spelled ligated⟩⟩
  · intro same ligated
    exact unlike ligated _ ((same _).mp (spelled ligated))
  · intro plain mac
    rw [mac_normalize_eq_ok_iff]
    exact or_iff_left fun ligated => plain ligated.1
  · intro same
    by_cases named : sighting.ip = ""
    · exact .inl named
    · refine .inr fun ligated => ?_
      have known := Mac.lowerCase_spellOut_ne_zero ligated.1
      have filed := filedUnder_iff.mpr ⟨ip_normalize_ne_empty_iff.mpr named, spelled ligated, known⟩
      exact unlike ligated _ (filedUnder_iff.mp ((same _).mp filed)).2.1
  · intro kept mac
    rw [filedUnder_iff, filedUnder_iff, ip_normalize_ne_empty_iff, mac_normalize_eq_ok_iff]
    rcases kept with unnamed | plain
    · simp [unnamed]
    · simp [plain]

/-- A text that is no address for its ligature is refused, and is an address when it is published.
-/
theorem normalize_ligature
    : let sighting : Sighting := .neigh { (default : Neigh) with
        ip := "10.0.0.1", mac := "\uFB00:00:00:00:00:01" }
      Mac.normalize sighting.mac = .error "\uFB00:00:00:00:00:01"
      ∧ Mac.normalize sighting.normalize.mac = .ok "ff:00:00:00:00:01"
      ∧ sighting.normalize.FiledUnder "ff:00:00:00:00:01"
      ∧ ∀ mac, ¬ sighting.FiledUnder mac := by
  intro sighting
  have misread : Mac.normalize sighting.mac = .error "\uFB00:00:00:00:00:01" := by decide +kernel
  have read : Mac.normalize sighting.normalize.mac = .ok "ff:00:00:00:00:01" := by decide +kernel
  have named : sighting.normalize.ip ≠ "" := by decide +kernel
  refine ⟨misread, read, filedUnder_iff.mpr ⟨named, read, by decide⟩, fun mac filed => ?_⟩
  have normal := (filedUnder_iff.mp filed).2.1
  simp [misread] at normal

end Sighting

end NetInventory
