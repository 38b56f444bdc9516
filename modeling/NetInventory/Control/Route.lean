import NetInventory.Control.Request
import NetInventory.Text.Decimal
import NetInventory.Text.Percent
import NetInventory.Time.Unit

/-! The paths that the control service knows, and what a query on them asks for. -/

namespace NetInventory.Control

/-- What the service can be asked without making it act. -/
inductive Inquiry where
  | health
  | devices
  /-- The device that an IP address belongs to; the address is as it stands in the path. -/
  | device (segment : String)
deriving DecidableEq, Repr

/-- What the service can be made to do. -/
inductive Action where
  | scanNet
  | scanHost
  | publishAll
  | callCollectors
deriving DecidableEq, Repr

/-- What a path leads to. -/
inductive Route where
  | inquiry (inquiry : Inquiry)
  | action (action : Action)
deriving DecidableEq, Repr

namespace Route

/-- The routes that have one path each. -/
def fixed : List Route :=
  [.inquiry .health, .inquiry .devices, .action .scanNet, .action .scanHost, .action .publishAll,
    .action .callCollectors]

/-- What the paths of single devices begin with. -/
def deviceStart : String :=
  "/api/v1/devices/ip/"

/-- The path of a route. -/
def path : Route → String
  | inquiry .health => "/api/v1/health"
  | inquiry .devices => "/api/v1/devices"
  | inquiry (.device segment) => deviceStart ++ segment
  | action .scanNet => "/api/v1/scan/net"
  | action .scanHost => "/api/v1/scan/host"
  | action .publishAll => "/api/v1/entries/request"
  | action .callCollectors => "/api/v1/collectors/call"

/-- The route of a path. The part that names a device is not empty and has no slash. -/
def ofPath? (path : String) : Option Route :=
  match fixed.find? (·.path = path) with
  | some route => some route
  | none =>
    let segment := path.toList.drop deviceStart.length
    if path.startsWith deviceStart && !segment.isEmpty && !segment.contains '/' then
      some (inquiry (.device (.ofList segment)))
    else none

end Route

/-- What a query on the devices asks for. -/
inductive DeviceQuery where
  | all
  /-- Those that changed within some seconds. -/
  | updatedWithin (seconds : Int)
deriving DecidableEq, Repr

namespace DeviceQuery

/-- The name under which the seconds are given. -/
def secondsName : String :=
  "updated_within_secs"

/-- What a query asks for. The seconds may be given once, as an integer of 64 bits. -/
def ofQuery? (query : String) : Option DeviceQuery :=
  match (Percent.queryPairs query).filter (·.1 = secondsName) with
  | [] => some all
  | [(_, value)] => do
    let seconds ← Text.readInteger? value
    guard (Int64.minValue.toInt ≤ seconds && seconds ≤ Int64.maxValue.toInt)
    return updatedWithin seconds
  | _ => none

/-- The period that some seconds are, in nanoseconds. -/
def period (seconds : Int) : Except ControlError Int :=
  if 0 ≤ seconds && seconds ≤ Time.greatestSeconds then .ok (seconds * Time.secondNanos)
  else .error (.invalidRequest ("invalid " ++ secondsName ++ ": " ++ toString seconds))

end DeviceQuery

end NetInventory.Control
