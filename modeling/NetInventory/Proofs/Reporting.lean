import NetInventory.Inbound
import NetInventory.Ingest
import NetInventory.Proofs.Ingest.Sightings
import NetInventory.Proofs.Json.Carrying
import NetInventory.Proofs.Text.Uppercase
import NetInventory.Reporter

/-! What collectors report is what is read. The message of a sighting, of flows or of traffic is
read under its topic as just that, so reports reach the inventory unchanged but for the upper case
in which sightings are published.
-/

namespace NetInventory

open Json (Codec depthLimit)

-----------------------------------------------------------------------------------------
-- Contents of reports
-----------------------------------------------------------------------------------------

variable {height : Nat}

theorem LldpCapability.carries (capability : LldpCapability)
    : LldpCapability.codec.Carries (height + 1) capability :=
  .record (by decide) ⟨.required (.string _), .required (.bool _), trivial⟩ rfl

theorem Lldp.carries (entry : Lldp) : Lldp.codec.Carries (height + 3) entry :=
  .record (by decide)
    ⟨.optional (.string _), .optional (.string _), .optional (.int64 _), .optional (.string _),
      .optional (.string _), .optional (.list fun _ _ => LldpCapability.carries _),
      .optional (.string _), .optional (.list fun _ _ => LldpCapability.carries _),
      .optional (.string _), .optional (.string _), .optional (.string _),
      .optional (.string _), .optional (.string _), .optional (.string _), trivial⟩ rfl

theorem Neigh.carries (entry : Neigh) : Neigh.codec.Carries (height + 1) entry :=
  .record (by decide)
    ⟨.optional (.string _), .optional (.string _), .optional (.int64 _), .optional (.string _),
      .optional (.string _), trivial⟩ rfl

theorem NmapPort.carries (port : NmapPort) : NmapPort.codec.Carries (height + 1) port :=
  .record (by decide) ⟨.required (.uint16 _), .required (.string _), .required (.string _), trivial⟩
    rfl

theorem Nmap.carries (entry : Nmap) : Nmap.codec.Carries (height + 3) entry :=
  .record (by decide)
    ⟨.optional (.string _), .optional (.string _), .optional (.int64 _), .optional (.string _),
      .optional (.string _), .optional (.string _), .optional (.string _),
      .optional (.string _), .optional (.list fun _ _ => NmapPort.carries _), trivial⟩ rfl

theorem Arp.carries (entry : Arp) : Arp.codec.Carries (height + 1) entry :=
  .record (by decide)
    ⟨.optional (.string _), .optional (.string _), .optional (.int64 _), .optional (.string _),
      trivial⟩ rfl

theorem Connection.carries (connection : Connection)
    : Connection.codec.Carries (height + 1) connection :=
  .record (by decide)
    ⟨.optional (.string _), .optional (.uint16 _), .optional (.string _), .optional (.uint16 _),
      .optional (.string _), .optional (.uint64 _), trivial⟩ rfl

theorem UsageReport.carries (report : UsageReport)
    : UsageReport.codec.Carries (height + 1) report :=
  .objectRecord (by decide)
    ⟨.required (.string _), .required (.uint64 _), .required (.uint64 _), trivial⟩ rfl

theorem Sighting.kind_normalize (sighting : Sighting)
    : sighting.normalize.kind = sighting.kind := by
  cases sighting <;> rfl

theorem Sighting.ip_normalize (sighting : Sighting)
    : sighting.normalize.ip = Text.toUpper sighting.ip := by
  cases sighting <;> rfl

theorem Sighting.mac_normalize (sighting : Sighting)
    : sighting.normalize.mac = Text.toUpper sighting.mac := by
  cases sighting <;> rfl

/-- A sighting is read from what is written of it, by cases on its kind. -/
theorem Sighting.ofBytes_encode (sighting : Sighting)
    : Sighting.ofBytes sighting.kind sighting.encode.toBytes = .ok sighting := by
  cases sighting with
  | lldp entry => exact congrArg (Except.map lldp) entry.carries.ofBytes
  | neigh entry => exact congrArg (Except.map neigh) entry.carries.ofBytes
  | nmap entry => exact congrArg (Except.map nmap) entry.carries.ofBytes
  | arp entry => exact congrArg (Except.map arp) entry.carries.ofBytes

-----------------------------------------------------------------------------------------
-- Messages
-----------------------------------------------------------------------------------------

/-- Every topic is known by its text. -/
theorem Topic.ofText?_text (topic : Topic) : ofText? topic.text = some topic := by
  cases topic <;> decide

namespace Inbound

theorem ofMessage_ofJson (topic : Topic) (json : Json)
    : ofMessage (.ofJson topic json) = ofPayload topic json.toBytes := by
  simp only [ofMessage, BusMessage.ofJson, Topic.ofText?_text]

/-- The message of a sighting is read as the record that the published sighting makes. -/
theorem ofMessage_ofSighting (sighting : Sighting)
    : ofMessage (.ofSighting sighting)
      = ((DeviceRecord.ofSighting sighting.normalize).mapError .record).map .sighting := by
  have payload := sighting.normalize.ofBytes_encode
  rw [sighting.kind_normalize] at payload
  have made
      : DeviceRecord.ofPayload (.ofSightingKind sighting.kind) sighting.normalize.encode.toBytes
        = (DeviceRecord.ofSighting sighting.normalize).mapError .record := by
    have named : (Topic.ofSightingKind sighting.kind).sightingKind? = some sighting.kind := by
      cases sighting <;> rfl
    simp only [DeviceRecord.ofPayload, named, payload]
  rw [BusMessage.ofSighting, ofMessage_ofJson, ← made]
  cases sighting <;> rfl

theorem ofMessage_ofConnections (connections : List Connection)
    : ofMessage (.ofConnections connections) = .ok (.connections connections) := by
  have carries : (Codec.list Connection.codec).Carries depthLimit connections :=
    .list fun connection _ => connection.carries
  rw [BusMessage.ofConnections, ofMessage_ofJson, ofPayload, carries.ofBytes]

theorem ofMessage_ofUsage (report : UsageReport)
    : ofMessage (.ofUsage report) = .ok (.usage report) := by
  rw [BusMessage.ofUsage, ofMessage_ofJson, ofPayload, report.carries.ofBytes]

/-- Whatever collectors report is read under its topic as what was reported. A sighting becomes the
record of that one sighting with its addresses in upper case, and is refused exactly if it names no
IP address; flows and traffic come back as they are.
-/
theorem ofMessage_reports (sighting : Sighting) (connections : List Connection)
    (report : UsageReport)
    : Topic.ofText? (BusMessage.ofSighting sighting).topic
        = some (.ofSightingKind sighting.kind)
      ∧ (sighting.ip = ""
          ∧ ofMessage (.ofSighting sighting) = .error (.record (.missingIp sighting.kind))
        ∨ sighting.ip ≠ ""
          ∧ ∃ record,
            ofMessage (.ofSighting sighting) = .ok (.sighting record)
            ∧ DeviceRecord.ofSighting sighting.normalize = .ok record
            ∧ record.sightings = [(Text.toUpper sighting.ip, sighting.normalize)]
            ∧ record.macAddress = Text.toUpper sighting.mac)
      ∧ ofMessage (.ofConnections connections) = .ok (.connections connections)
      ∧ ofMessage (.ofUsage report) = .ok (.usage report) := by
  refine ⟨Topic.ofText?_text _, ?sighting, ofMessage_ofConnections connections,
    ofMessage_ofUsage report⟩
  rw [ofMessage_ofSighting]
  by_cases unnamed : sighting.ip = ""
  · have refused
        : DeviceRecord.ofSighting sighting.normalize = .error (.missingIp sighting.kind) := by
      rw [DeviceRecord.ofSighting, sighting.ip_normalize, unnamed, sighting.kind_normalize]
      rfl
    exact .inl ⟨unnamed, by rw [refused]; rfl⟩
  · have named : sighting.normalize.ip ≠ "" := by
      rw [sighting.ip_normalize]
      exact Text.toUpper_ne_empty unnamed
    obtain ⟨record, made⟩ := DeviceRecord.exists_ofSighting named
    have sightings := DeviceRecord.sightings_ofSighting made
    have mac := (DeviceRecord.ofSighting_eq_ok made).1
    rw [sighting.ip_normalize] at sightings
    exact .inr
      ⟨unnamed, record, by rw [made]; rfl, made, sightings, mac.trans sighting.mac_normalize⟩

end Inbound

end NetInventory
