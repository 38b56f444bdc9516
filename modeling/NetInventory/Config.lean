import NetInventory.Address.Socket
import NetInventory.Collector.Scheduler
import NetInventory.Ingest
import NetInventory.Publisher
import NetInventory.Settings
import NetInventory.Traffic.Tracker

/-! The configuration of the service, which is read from a file. What the file does not say has a
value of its own; amounts of time have to be ones that can be told.
-/

namespace NetInventory

/-- The configuration as it is written. -/
structure Config where
  publisherCapacity : UInt64
  shutdownTimeoutSecs : UInt64
  queueCapacity : UInt64
  pruneIntervalSecs : UInt64
  staleAfterHours : Int64
  heartbeatSecs : UInt64
  binIntervalMins : Int64
  maxTrackHours : Int64
  controlEnabled : Bool
  bindAddress : SocketAddress
  discovery : Option Json

/-- Why a configuration is not used. -/
inductive ConfigError where
  /-- The file cannot be read as text. -/
  | io
  /-- The text has not the shape of a configuration. -/
  | invalid
  /-- The discovery settings are invalid. -/
  | settings (error : SettingsError)
  /-- An amount of time is negative. -/
  | negative (name : String) (value : Int64)
  /-- An amount of time is too long to be told. -/
  | outOfRange (name : String) (value : Int64)
deriving DecidableEq, Repr

/-- The wording of an error, where it has one of its own. -/
def ConfigError.message? : ConfigError → Option String
  | io => none
  | invalid => none
  | settings error => error.message?
  | negative name value =>
    some (name ++ " must not be negative, got " ++ toString value.toInt)
  | outOfRange name value => some (name ++ " is out of range: " ++ toString value.toInt)

namespace Config

/-- The address of the control service unless another is named. -/
def standardAddress : SocketAddress :=
  .v4 ⟨127, 0, 0, 1⟩ 5563

/-- The address of the control service when the file names none: the one that `named` is the text
of, if it is the text of one.
-/
def defaultAddress (named : Option String) : SocketAddress :=
  (named.bind SocketAddress.ofText?).getD standardAddress

/-- The part that concerns the publisher: room and timeout. -/
def publisherSection : Json.Codec (UInt64 × UInt64 × Unit) :=
  .record
    (.cons (.optional "capacity" .uint64 1000) <|
      .cons (.optional "shutdown_timeout_secs" .uint64 5) .nil) id id

/-- The part that concerns ingestion: room, time between removals, and age of stale devices. -/
def ingestSection : Json.Codec (UInt64 × UInt64 × Int64 × Unit) :=
  .record
    (.cons (.optional "queue_capacity" .uint64 1000) <|
      .cons (.optional "prune_interval_secs" .uint64 3600) <|
      .cons (.optional "stale_after_hours" .int64 24) .nil) id id

/-- The part that concerns collectors: the time between two beats. -/
def collectorsSection : Json.Codec (UInt64 × Unit) :=
  .record (.cons (.optional "heartbeat_secs" .uint64 60) .nil) id id

/-- The part that concerns trackers: the width of a bin and the reach of a history. -/
def trackerSection : Json.Codec (Int64 × Int64 × Unit) :=
  .record
    (.cons (.optional "bin_interval_mins" .int64 30) <|
      .cons (.optional "max_track_hours" .int64 24) .nil) id id

/-- The part that concerns the control service: whether it runs, and where. -/
def controlSection (address : SocketAddress) : Json.Codec (Bool × SocketAddress × Unit) :=
  .record
    (.cons (.optional "enabled" .bool true) <|
      .cons (.optional "bind_addr" SocketAddress.codec address) .nil) id id

/-- The JSON form of a configuration. -/
def codec (address : SocketAddress) : Json.Codec Config :=
  .record
    (.cons (.optional "publisher" publisherSection (1000, 5, ())) <|
      .cons (.optional "ingest" ingestSection (1000, 3600, 24, ())) <|
      .cons (.optional "collectors" collectorsSection (60, ())) <|
      .cons (.optional "tracker" trackerSection (30, 24, ())) <|
      .cons (.optional "control" (controlSection address) (true, address, ())) <|
      .cons (.optional "discovery" (.option .any) none) .nil)
    (fun c =>
      ((c.publisherCapacity, c.shutdownTimeoutSecs, ()),
        (c.queueCapacity, c.pruneIntervalSecs, c.staleAfterHours, ()), (c.heartbeatSecs, ()),
        (c.binIntervalMins, c.maxTrackHours, ()), (c.controlEnabled, c.bindAddress, ()),
        c.discovery, ()))
    (fun ((publisherCapacity, shutdownTimeoutSecs, _),
        (queueCapacity, pruneIntervalSecs, staleAfterHours, _), (heartbeatSecs, _),
        (binIntervalMins, maxTrackHours, _), (controlEnabled, bindAddress, _), discovery, _) =>
      ⟨publisherCapacity, shutdownTimeoutSecs, queueCapacity, pruneIntervalSecs,
        staleAfterHours, heartbeatSecs, binIntervalMins, maxTrackHours, controlEnabled,
        bindAddress, discovery⟩)

/-- An amount of time in nanoseconds, given as a number of units of some seconds. -/
def period (name : String) (unit : Int) (value : Int64) : Except ConfigError Int :=
  if value < 0 then .error (.negative name value)
  else if Time.greatestSeconds < value.toInt * unit then .error (.outOfRange name value)
  else .ok (value.toInt * unit * Time.secondNanos)

/-- The age at which a device is stale. -/
def staleAfter (config : Config) : Except ConfigError Int :=
  period "ingest.stale_after_hours" 3600 config.staleAfterHours

/-- The width of a bin. -/
def binInterval (config : Config) : Except ConfigError Int :=
  period "tracker.bin_interval_mins" 60 config.binIntervalMins

/-- The reach of a history. -/
def reach (config : Config) : Except ConfigError Int :=
  period "tracker.max_track_hours" 3600 config.maxTrackHours

/-- How the publisher works. -/
def publisher (config : Config) : PublisherConfig :=
  ⟨config.publisherCapacity.toNat, config.shutdownTimeoutSecs.toNat * Time.secondNanos⟩

/-- How ingestion works. -/
def ingest (config : Config) : Except ConfigError IngestConfig := do
  return {
    queueCapacity := config.queueCapacity.toNat
    pruneInterval := config.pruneIntervalSecs.toNat * Time.secondNanos
    staleAfter := ← config.staleAfter
    shutdownTimeout := config.shutdownTimeoutSecs.toNat * Time.secondNanos
  }

/-- The time between two beats. -/
def heartbeat (config : Config) : Nat :=
  config.heartbeatSecs.toNat * Time.secondNanos

/-- The discovery settings, if there are any. -/
def discoverySettings (config : Config) : Except SettingsError (Option DiscoverySettings) :=
  match config.discovery with
  | none => .ok none
  | some json => (DiscoverySettings.ofJson json).map some

/-- Checks what a configuration says: first the discovery settings, and then the amounts of time.
-/
def check (config : Config) : Except ConfigError Unit := do
  let _ ← config.discoverySettings.mapError .settings
  let _ ← config.ingest
  let _ ← config.binInterval
  let _ ← config.reach

/-- The configuration that the bytes of a file hold. `named` is what the one who runs the service
gives as its address, in case the file gives none.
-/
def ofBytes (named : Option String) (bytes : ByteArray) : Except ConfigError Config :=
  match Utf8.text? bytes with
  | none => .error .io
  | some _ =>
    match (codec (defaultAddress named)).ofBytes bytes with
    | .error _ => .error .invalid
    | .ok config => do
      config.check
      return config

/-- The configuration in the file at a path that is given by its contents, if there is one. -/
def ofFile (named : Option String) : Option ByteArray → Except ConfigError Config
  | none => .error .io
  | some bytes => ofBytes named bytes

end Config

end NetInventory
