import NetInventory.Address.Network
import NetInventory.Collector.Scheduler
import NetInventory.Control.Message
import NetInventory.Control.Route
import NetInventory.Publisher
import NetInventory.Reporter
import NetInventory.Store.Summary

/-! The control service: other programs ask it for the devices, make collectors scan, and have the
whole inventory published again. Requests to act are answered with a code in the body, so their
answers have one shape whatever comes of them.
-/

namespace NetInventory.Control

/-- What the control service works on. -/
structure Service (κ : Type) where
  store : Store
  registry : CollectorRegistry κ
  scheduler : Scheduler
  publisher : Publisher

/-- What comes of a request: the answer, the calls of collectors that are made, and the service
afterwards.
-/
structure Reaction (κ : Type) where
  response : Response
  calls : List (CollectorCall κ)
  service : Service κ

namespace Service

variable {κ : Type}

/-- Calls all collectors with a command, if the scheduler runs. -/
def trigger (command : Command) (service : Service κ)
    : ResponseCode × List (CollectorCall κ) :=
  match service.scheduler.trigger [command] service.registry with
  | .ok calls => (.ok, calls)
  | .error _ => (.error, [])

/-- Scans networks. There has to be one at least, and each has to be a network. -/
def scanNet (request : ScanNetRequest) (service : Service κ)
    : ResponseCode × List (CollectorCall κ) :=
  if request.net.isEmpty || !request.net.all Network.isText then (.invalidRequest, [])
  else service.trigger ⟨.scanNet, request.net⟩

/-- Whether a text may name a host: it is not empty and has no white space. -/
def isHost (host : String) : Bool :=
  !host.isEmpty && !host.toList.any Text.isBlank

/-- Scans hosts. There has to be one at least, and each has to be the name of a host. -/
def scanHost (request : ScanHostRequest) (service : Service κ)
    : ResponseCode × List (CollectorCall κ) :=
  if request.host.isEmpty || !request.host.all isHost then (.invalidRequest, [])
  else service.trigger ⟨.scanHost, request.host⟩

/-- Publishes every record of the inventory again, in the order of the keys. Records for which the
publisher has no room are dropped, as always, and do not change the answer.
-/
def publishAll (service : Service κ) : ResponseCode × Service κ :=
  let messages := (service.store.list []).map BusMessage.ofRecord
  let publisher := messages.foldl (fun publisher message => (publisher.publish message).2)
    service.publisher
  (.ok, { service with publisher })

/-- Calls collectors by their names, and tells how many. -/
def callCollectors (request : CallCollectorsRequest) (service : Service κ)
    : CallCollectorsResponse × List (CollectorCall κ) :=
  let calls := service.registry.callSelected request.collectors request.commands
  (⟨.ok, .ofNat calls.length⟩, calls)

/-- How the service is at an instant. -/
def health (instant : Int) (service : Service κ) : HealthResponse where
  status := "ok"
  timestamp := (Time.DateTime.ofNanos instant).offsetText
  devices := .ofNat service.store.size
  collectors := service.registry.names

/-- The summaries that a query asks for. The clock is read only if the query is about ages. -/
def summaries (query : DeviceQuery) (service : Service κ)
    : Except ControlError (List DeviceSummary) × Service κ :=
  match query with
  | .all => (.ok (service.store.summaries []), service)
  | .updatedWithin seconds =>
    match DeviceQuery.period seconds with
    | .error error => (.error error, service)
    | .ok period =>
      let (now, store) := service.store.readClock
      (.ok (store.summaries [.updatedWithin now period]), { service with store })

/-- The record of the device that an IP address belongs to. -/
def device (ip : String) (service : Service κ) : Except ControlError DeviceRecord :=
  match service.store.byIp? ip with
  | some record => .ok record
  | none => .error (.notFound ("no device with IP " ++ ip))

/-- The answer with a result in it, or with the error that came up. -/
def respond {α : Type} (encode : α → Json) : Except ControlError α → Response
  | .ok value => .json 200 (encode value)
  | .error error => error.response

/-- The answer with a code in it. -/
def respondCode (code : ResponseCode) : Response :=
  .json 200 (RequestResponse.codec.encode ⟨code⟩)

/-- The greatest number of bytes in a body that is read. -/
def bodyLimit : Nat :=
  2 * 1024 * 1024

/-- Reads the JSON body of a request and goes on with it. The first value counts, whatever stands
behind it. A body that is not said to be JSON or that is too long is refused before it is read.
-/
def withBody {α β : Type} (codec : Json.Codec α) (request : Request) (refuse : Response → β)
    (go : α → β) : β :=
  if !request.hasJson then refuse (.bare 415)
  else if bodyLimit < request.body.size then refuse (.bare 413)
  else
    match codec.ofFront request.body with
    | .error .malformed => refuse (.bare 400)
    | .error .mismatch => refuse (.bare 422)
    | .ok value => go value

/-- Answers an inquiry. -/
def inquire (instant : Int) (inquiry : Inquiry) (request : Request) (service : Service κ)
    : Response × Service κ :=
  match inquiry with
  | .health => (.json 200 (HealthResponse.codec.encode (service.health instant)), service)
  | .devices =>
    match DeviceQuery.ofQuery? (request.uri.query.getD "") with
    | none => (.bare 400, service)
    | some query =>
      let (result, service) := service.summaries query
      (respond (fun summaries => .array (summaries.map (·.encode))) result, service)
  | .device segment =>
    match Percent.decodeText? segment with
    | none => (.bare 400, service)
    | some ip => (respond DeviceRecord.codec.encode (service.device ip), service)

/-- Does what a request to act asks for. -/
def act (action : Action) (request : Request) (service : Service κ) : Reaction κ :=
  let refuse (response : Response) : Reaction κ := ⟨response, [], service⟩
  match action with
  | .scanNet =>
    withBody ScanNetRequest.codec request refuse fun body =>
      let (code, calls) := service.scanNet body
      ⟨respondCode code, calls, service⟩
  | .scanHost =>
    withBody ScanHostRequest.codec request refuse fun body =>
      let (code, calls) := service.scanHost body
      ⟨respondCode code, calls, service⟩
  | .publishAll =>
    let (code, service) := service.publishAll
    ⟨respondCode code, [], service⟩
  | .callCollectors =>
    withBody CallCollectorsRequest.codec request refuse fun body =>
      let (answer, calls) := service.callCollectors body
      ⟨.json 200 (CallCollectorsResponse.codec.encode answer), calls, service⟩

/-- Answers a request that arrives at an instant. An unknown path counts before a method that its
route does not have.
-/
def answer (instant : Int) (request : Request) (service : Service κ) : Reaction κ :=
  match Route.ofPath? request.uri.path, request.method with
  | none, _ => ⟨.bare 404, [], service⟩
  | some (.inquiry inquiry), .get =>
    let (response, service) := service.inquire instant inquiry request
    ⟨response, [], service⟩
  | some (.inquiry inquiry), .head =>
    let (response, service) := service.inquire instant inquiry request
    ⟨response.withoutBody, [], service⟩
  | some (.action action), .post => service.act action request
  | some _, _ => ⟨.bare 405, [], service⟩

end Service

end NetInventory.Control
