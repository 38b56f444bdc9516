import NetInventory.Device.Record
import NetInventory.Topic
import NetInventory.Traffic.Amount

/-! What comes in from the bus. -/

namespace NetInventory

/-- A message that the inventory takes in. -/
inductive Inbound where
  /-- A record made from one sighting. -/
  | sighting (record : DeviceRecord)
  /-- The flows that are going on. -/
  | connections (connections : List Connection)
  /-- The traffic of one address. -/
  | usage (report : UsageReport)
deriving DecidableEq

/-- Why a message is not taken in. -/
inductive DecodeError where
  /-- Nothing that the inventory takes in travels under the topic. -/
  | unexpectedTopic (topic : String)
  /-- The payload is not what travels under the topic. -/
  | codec (fault : Json.Fault)
  /-- The sighting cannot be made into a record. -/
  | record (error : RecordError)
deriving DecidableEq, Repr

/-- Reads the record that a sighting under a topic makes. -/
def DeviceRecord.ofPayload (topic : Topic) (payload : ByteArray)
    : Except DecodeError DeviceRecord :=
  match topic.sightingKind? with
  | none => .error (.unexpectedTopic topic.text)
  | some kind =>
    match Sighting.ofBytes kind payload with
    | .error fault => .error (.codec fault)
    | .ok sighting => (DeviceRecord.ofSighting sighting).mapError .record

/-- Reads a message under a topic. -/
def Inbound.ofPayload (topic : Topic) (payload : ByteArray) : Except DecodeError Inbound :=
  match topic with
  | .connections =>
    match (Json.Codec.list Connection.codec).ofBytes payload with
    | .error fault => .error (.codec fault)
    | .ok flows => .ok (.connections flows)
  | .dataUse =>
    match UsageReport.codec.ofBytes payload with
    | .error fault => .error (.codec fault)
    | .ok report => .ok (.usage report)
  | topic => (DeviceRecord.ofPayload topic payload).map .sighting

end NetInventory
