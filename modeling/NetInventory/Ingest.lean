import NetInventory.Bus
import NetInventory.Inbound
import NetInventory.Stage
import NetInventory.Store.Basic

/-! Ingestion: messages from the bus become changes of the store. A message that cannot be read,
or that the store refuses, is counted and has no other effect.
-/

namespace NetInventory

/-- How ingestion works. Periods are in nanoseconds. -/
structure IngestConfig where
  queueCapacity : Nat
  /-- The time between two removals of stale devices. -/
  pruneInterval : Nat
  /-- The age at which a device is stale. -/
  staleAfter : Int
  shutdownTimeout : Nat
deriving DecidableEq, Repr

/-- A thousand messages wait at most; every hour the devices are removed that have not changed for
24 hours; a stop takes five seconds at most.
-/
def IngestConfig.standard : IngestConfig where
  queueCapacity := 1000
  pruneInterval := 3600 * Time.secondNanos
  staleAfter := 86400 * Time.secondNanos
  shutdownTimeout := 5 * Time.secondNanos

/-- What ingestion has done. -/
structure IngestStats where
  received : Nat
  merged : Nat
  /-- Messages that could not be read. -/
  decodeErrors : Nat
  /-- Records and reports that the store refused. -/
  rejected : Nat
  alerts : Nat
  pruned : Nat
  /-- Lists of flows and reports of traffic that the store took in. -/
  trafficUpdates : Nat
deriving DecidableEq, Repr

/-- Nothing done. -/
def IngestStats.zero : IngestStats :=
  ⟨0, 0, 0, 0, 0, 0, 0⟩

/-- What ingestion lets others know. -/
inductive Effect where
  /-- A new device is announced. -/
  | alert (alert : Alert)
  /-- A record was merged and is stored like this. -/
  | merged (record : DeviceRecord)
deriving DecidableEq

/-- Ingestion into a store. -/
structure Ingest where
  store : Store
  staleAfter : Int
  stats : IngestStats

/-- Reads a message. -/
def Inbound.ofMessage (message : BusMessage) : Except DecodeError Inbound :=
  match Topic.ofText? message.topic with
  | none => .error (.unexpectedTopic message.topic)
  | some topic => Inbound.ofPayload topic message.payload

namespace Ingest

/-- Ingestion that has done nothing. -/
def create (store : Store) (staleAfter : Int) : Ingest :=
  ⟨store, staleAfter, .zero⟩

/-- Counts something. -/
def count (ingest : Ingest) (add : IngestStats → IngestStats) : Ingest :=
  { ingest with stats := add ingest.stats }

/-- Takes in a record. An alert goes out before the merged record. -/
def merge (instant : Int) (record : DeviceRecord) (ingest : Ingest) : List Effect × Ingest :=
  let (result, store) := ingest.store.merge instant record
  let ingest := { ingest with store }
  match result with
  | .error _ => ([], ingest.count fun s => { s with rejected := s.rejected + 1 })
  | .ok outcome =>
    let ingest := ingest.count fun s => { s with merged := s.merged + 1 }
    match outcome.alert with
    | none => ([.merged outcome.record], ingest)
    | some alert =>
      ([.alert alert, .merged outcome.record],
        ingest.count fun s => { s with alerts := s.alerts + 1 })

/-- Takes in what a message holds. -/
def apply (instant : Int) (inbound : Inbound) (ingest : Ingest) : List Effect × Ingest :=
  match inbound with
  | .sighting record => ingest.merge instant record
  | .connections connections =>
    let (_, store) := ingest.store.replaceConnections connections
    ([], { ingest with store }.count fun s => { s with trafficUpdates := s.trafficUpdates + 1 })
  | .usage report =>
    let (found, store) := ingest.store.addUsage instant report.ip report.amount
    let ingest := { ingest with store }
    ([], ingest.count fun s =>
      if found then { s with trafficUpdates := s.trafficUpdates + 1 }
      else { s with rejected := s.rejected + 1 })

/-- Handles a message. -/
def handle (instant : Int) (message : BusMessage) (ingest : Ingest) : List Effect × Ingest :=
  let ingest := ingest.count fun s => { s with received := s.received + 1 }
  match Inbound.ofMessage message with
  | .error _ => ([], ingest.count fun s => { s with decodeErrors := s.decodeErrors + 1 })
  | .ok inbound => ingest.apply instant inbound

/-- Handles messages in their order. -/
def handleAll (instant : Int) : List BusMessage → Ingest → List Effect × Ingest
  | [], ingest => ([], ingest)
  | message :: rest, ingest =>
    let (effects, ingest) := ingest.handle instant message
    let (later, ingest) := handleAll instant rest ingest
    (effects ++ later, ingest)

/-- Removes the stale devices, and gives their number. -/
def prune (ingest : Ingest) : Nat × Ingest :=
  let (now, store) := ingest.store.readClock
  let (removed, store) := store.prune [.olderThan now ingest.staleAfter]
  let ingest := { ingest with store }
  (removed.length, ingest.count fun s => { s with pruned := s.pruned + removed.length })

end Ingest

end NetInventory
