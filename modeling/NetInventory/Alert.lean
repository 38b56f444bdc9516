import NetInventory.Device.Record
import NetInventory.Mac
import NetInventory.Time.DateTime

/-! Alerts. A device that a record is the first to speak of is announced once. -/

namespace NetInventory

/-- What an alert is about. -/
inductive AlertKind where
  | unknown
  | discovery
deriving DecidableEq, Repr

namespace AlertKind

/-- Every kind of alert. -/
def all : List AlertKind :=
  [unknown, discovery]

/-- The name of a kind in messages. -/
def name : AlertKind → String
  | unknown => "UNKNOWN"
  | discovery => "DISCOVERY"

/-- The JSON form of a kind. -/
def codec : Json.Codec AlertKind :=
  .choice name (fun text => all.find? (·.name = text))

end AlertKind

/-- A message to operators. -/
structure Alert where
  kind : AlertKind
  message : String
  params : SortedMap String
  /-- When the alert was sent; an alert that was not sent yet carries none. -/
  timestamp : Option Time.DateTime
deriving DecidableEq

namespace Alert

/-- The JSON form of an alert. -/
def codec : Json.Codec Alert :=
  .record
    (.cons (.required "type" AlertKind.codec) <|
      .cons (.required "message" .string) <|
      .cons (.required "params" (.map .string)) <|
      .cons (.sparse "timestamp" (.option Time.DateTime.codec) none (·.isNone)) .nil)
    (fun alert => (alert.kind, alert.message, alert.params, alert.timestamp, ()))
    (fun (kind, message, params, timestamp, _) => ⟨kind, message, params, timestamp⟩)

/-- The parameter that names the hardware address. -/
def macParam : String :=
  "macAddress"

/-- The parameter that lists the addresses at which collectors saw the device. -/
def ipsParam : String :=
  "ips"

/-- The hardware address that an alert announces. -/
def mac? (alert : Alert) : Option String :=
  alert.params.get? macParam

/-- The alert that announces the device of a record. -/
def newDevice (record : DeviceRecord) : Alert where
  kind := .discovery
  message := "ALERT_NEW_DEVICE_DISCOVERED"
  params :=
    (SortedMap.singleton macParam record.macAddress).insert ipsParam
      (",".intercalate record.sightedIps)
  timestamp := none

/-- The alert that is due for a record: one if the record names a device and no existing record
was found for it.
-/
def due? (record : DeviceRecord) (resolved : Bool) : Option Alert :=
  if Mac.isZero record.macAddress || resolved || record.isEmpty then none
  else some (newDevice record)

end Alert

end NetInventory
