import NetInventory.Collector.Command

/-! The bodies of requests to the control service and of its answers. -/

namespace NetInventory.Control

/-- How a request came out. -/
inductive ResponseCode where
  | unknown
  | ok
  | error
  | invalidRequest
deriving DecidableEq, Repr

namespace ResponseCode

/-- Every way in which a request can come out. -/
def all : List ResponseCode :=
  [unknown, ok, error, invalidRequest]

/-- The name of a code. -/
def name : ResponseCode → String
  | unknown => "UNKNOWN"
  | ok => "OK"
  | error => "ERROR"
  | invalidRequest => "INVALID_REQUEST"

/-- The JSON form of a code. -/
def codec : Json.Codec ResponseCode :=
  .choice name (fun text => all.find? (·.name = text))

end ResponseCode

/-- The answer to a request that only succeeds or fails. -/
structure RequestResponse where
  result : ResponseCode
deriving DecidableEq

/-- The JSON form of the answer. -/
def RequestResponse.codec : Json.Codec RequestResponse :=
  .record (.cons (.required "result" ResponseCode.codec) .nil)
    (fun response => (response.result, ())) (fun (result, _) => ⟨result⟩)

/-- A request to scan networks. -/
structure ScanNetRequest where
  net : List String
deriving DecidableEq

/-- The JSON form of a request to scan networks. -/
def ScanNetRequest.codec : Json.Codec ScanNetRequest :=
  .record (.cons (.optional "net" (.list .string) []) .nil)
    (fun request => (request.net, ())) (fun (net, _) => ⟨net⟩)

/-- A request to scan hosts. -/
structure ScanHostRequest where
  host : List String
deriving DecidableEq

/-- The JSON form of a request to scan hosts. -/
def ScanHostRequest.codec : Json.Codec ScanHostRequest :=
  .record (.cons (.optional "host" (.list .string) []) .nil)
    (fun request => (request.host, ())) (fun (host, _) => ⟨host⟩)

/-- A request to call collectors: those named, or every one if none is named. -/
structure CallCollectorsRequest where
  collectors : List CollectorName
  commands : List Command
deriving DecidableEq

/-- The JSON form of a request to call collectors. -/
def CallCollectorsRequest.codec : Json.Codec CallCollectorsRequest :=
  .record
    (.cons (.optional "collectors" (.list .string) []) <|
      .cons (.optional "commands" (.list Command.codec) []) .nil)
    (fun request => (request.collectors, request.commands, ()))
    (fun (collectors, commands, _) => ⟨collectors, commands⟩)

/-- The answer to a request to call collectors. -/
structure CallCollectorsResponse where
  result : ResponseCode
  /-- The number of collectors that were called. -/
  called : UInt64
deriving DecidableEq

/-- The JSON form of the answer. -/
def CallCollectorsResponse.codec : Json.Codec CallCollectorsResponse :=
  .record
    (.cons (.required "result" ResponseCode.codec) <| .cons (.required "called" .uint64) .nil)
    (fun response => (response.result, response.called, ()))
    (fun (result, called, _) => ⟨result, called⟩)

/-- The answer to the question whether the service is well. -/
structure HealthResponse where
  status : String
  timestamp : String
  devices : UInt64
  collectors : List CollectorName
deriving DecidableEq

/-- The JSON form of the answer. -/
def HealthResponse.codec : Json.Codec HealthResponse :=
  .record
    (.cons (.required "status" .string) <|
      .cons (.required "timestamp" .string) <|
      .cons (.required "devices" .uint64) <|
      .cons (.required "collectors" (.list .string)) .nil)
    (fun response =>
      (response.status, response.timestamp, response.devices, response.collectors, ()))
    (fun (status, timestamp, devices, collectors, _) => ⟨status, timestamp, devices, collectors⟩)

end NetInventory.Control
