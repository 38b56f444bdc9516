import NetInventory.Alert
import NetInventory.Publisher
import NetInventory.Traffic.Amount

/-! What is published: the reports of collectors, alerts, and records as they are stored. -/

namespace NetInventory

namespace BusMessage

/-- The message of a sighting, which is published with its addresses in upper case. -/
def ofSighting (sighting : Sighting) : BusMessage :=
  ofJson (.ofSightingKind sighting.kind) sighting.normalize.encode

/-- The message of the flows that are going on. -/
def ofConnections (connections : List Connection) : BusMessage :=
  ofJson .connections ((Json.Codec.list Connection.codec).encode connections)

/-- The message of the traffic of one address. -/
def ofUsage (report : UsageReport) : BusMessage :=
  ofJson .dataUse (UsageReport.codec.encode report)

/-- The message of an alert, which is stamped with the instant at which it is sent. -/
def ofAlert (instant : Int) (alert : Alert) : BusMessage :=
  ofJson .alert (Alert.codec.encode { alert with timestamp := some (.ofNanos instant) })

/-- The message of a record. -/
def ofRecord (record : DeviceRecord) : BusMessage :=
  ofJson .device (DeviceRecord.codec.encode record)

end BusMessage

end NetInventory
