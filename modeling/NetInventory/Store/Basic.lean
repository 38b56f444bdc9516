import NetInventory.Alert
import NetInventory.Inventory
import NetInventory.Store.Age

/-! The store: the inventory together with the clock that stamps its records. A record is checked
before anything else happens, so a record that is refused leaves everything as it was, the clock
included.
-/

namespace NetInventory

/-- A clock, given by its readings in seconds since the epoch and how many have been taken. -/
structure Clock where
  readings : Nat → Int64
  taken : Nat

namespace Clock

/-- A clock that stands still. -/
def fixed (now : Int64) : Clock :=
  ⟨fun _ => now, 0⟩

/-- Takes a reading. -/
def read (clock : Clock) : Int64 × Clock :=
  (clock.readings clock.taken, { clock with taken := clock.taken + 1 })

end Clock

/-- The inventory, its clock, and the limits that new trackers are given. -/
structure Store where
  inventory : Inventory
  clock : Clock
  binInterval : Int
  reach : Int

/-- What came of taking in a record. -/
structure Outcome where
  /-- The record as it is stored now. -/
  record : DeviceRecord
  /-- The alert that is due. -/
  alert : Option Alert
  /-- Whether the device was not there before. -/
  created : Bool
deriving DecidableEq

namespace Store

/-- A store without devices. -/
def empty (clock : Clock) (binInterval reach : Int) : Store :=
  ⟨.empty, clock, binInterval, reach⟩

/-- A store without devices that gives trackers the usual limits. -/
def standard (clock : Clock) : Store :=
  empty clock Tracker.defaultBinInterval Tracker.defaultReach

/-- Takes a reading of the clock. -/
def readClock (store : Store) : Int64 × Store :=
  let (now, clock) := store.clock.read
  (now, { store with clock })

/-- Checks that a record can be stored and brings its hardware address into the form that devices
are known by.
-/
def accept (record : DeviceRecord) : Except RecordError DeviceRecord :=
  match Mac.normalize record.macAddress with
  | .error mac => .error (.invalidMac mac)
  | .ok mac =>
    if Mac.isZero mac then .error .zeroMac
    else
      let record := { record with macAddress := mac }
      if record.isEmpty then .error .unkeyable else .ok record

/-- Brings an accepted record into the inventory: into the device that it speaks of, or as a new
device that is tracked from the given instant on. The device moves if its key changes.
-/
def bring (inventory : Inventory) (record : DeviceRecord) (now : Int64)
    (usage : Tracker) : Except RecordError (DeviceRecord × Bool × Inventory) :=
  let resolved := inventory.resolve record.macAddress record.ips
  let merged :=
    match resolved.bind inventory.devices.get? with
    | some stored => stored.record.merge record
    | none => record
  let merged := { merged with lastUpdate := now }
  match merged.key? with
  | none => .error .unkeyable
  | some key =>
    match resolved.bind inventory.take with
    | some (stored, rest) => .ok (merged, false, rest.put key ⟨merged, stored.usage⟩)
    | none => .ok (merged, true, inventory.put key ⟨merged, usage⟩)

/-- Takes in a record at an instant. `alerting` says whether a new device is announced, and
`changed` takes note of the stored record.
-/
def mergeWith {σ : Type} (changed : DeviceRecord → σ → σ) (alerting : Bool) (instant : Int)
    (record : DeviceRecord) (store : Store) (noted : σ)
    : Except RecordError Outcome × Store × σ :=
  match accept record with
  | .error error => (.error error, store, noted)
  | .ok record =>
    let (now, store) := store.readClock
    let resolved := store.inventory.resolve record.macAddress record.ips
    let alert := if alerting then Alert.due? record resolved.isSome else none
    match bring store.inventory record now (.start store.binInterval store.reach instant) with
    | .error error => (.error error, store, noted)
    | .ok (record, created, inventory) =>
      (.ok ⟨record, alert, created⟩, { store with inventory }, changed record noted)

/-- Takes in a record at an instant and announces a new device. -/
def merge (instant : Int) (record : DeviceRecord) (store : Store)
    : Except RecordError Outcome × Store :=
  let (result, store, ()) := store.mergeWith (fun _ _ => ()) true instant record ()
  (result, store)

/-- Takes in records without announcing devices, and gives the number of those not refused. Time
passes between the records, so each has its own instant.
-/
def warmUpEach : List (Int × DeviceRecord) → Store → Nat × Store
  | [], store => (0, store)
  | (instant, record) :: rest, store =>
    let (result, store, ()) := store.mergeWith (fun _ _ => ()) false instant record ()
    let (count, store) := warmUpEach rest store
    (match result with | .ok _ => count + 1 | .error _ => count, store)

/-- Takes in records without announcing devices, where one instant is now for all of them. -/
def warmUp (instant : Int) (records : List DeviceRecord) (store : Store) : Nat × Store :=
  store.warmUpEach (records.map fun record => (instant, record))

/-- The records that fulfil every condition, in the order of their keys. -/
def list (store : Store) (conditions : List Condition) : List DeviceRecord :=
  (store.inventory.matching conditions).map (·.2.record)

/-- The record of the device that an IP address belongs to. -/
def byIp? (store : Store) (ip : String) : Option DeviceRecord :=
  (store.inventory.byIp? ip).map (·.record)

/-- The record of the device with a hardware address. -/
def byMac? (store : Store) (mac : String) : Option DeviceRecord :=
  match Mac.normalize mac with
  | .error _ => none
  | .ok mac => if mac.isEmpty then none else (store.inventory.devices.get? mac).map (·.record)

/-- Applies a function to the records that fulfil every condition. -/
def apply {ε β : Type} (store : Store) (conditions : List Condition)
    (f : List DeviceRecord → Except ε β) : Except ε β :=
  f (store.list conditions)

/-- Removes the devices whose records fulfil every condition, and gives their records. -/
def prune (conditions : List Condition) (store : Store) : List DeviceRecord × Store :=
  let (removed, inventory) := store.inventory.prune conditions
  (removed, { store with inventory })

/-- Replaces the flows of all devices, and gives the number of flows that were attached. -/
def replaceConnections (connections : List Connection) (store : Store) : Nat × Store :=
  let (count, inventory) := store.inventory.replaceConnections connections
  (count, { store with inventory })

/-- Counts traffic for the device that an IP address belongs to, and says whether there is one. -/
def addUsage (instant : Int) (ip : String) (amount : Amount) (store : Store) : Bool × Store :=
  let (found, inventory) := store.inventory.addUsage ip amount instant
  (found, { store with inventory })

/-- The traffic of the device that an IP address belongs to. -/
def usage? (store : Store) (ip : String) : Option Amount :=
  (store.inventory.byIp? ip).map (·.usage.total)

/-- Drops the traffic of all devices that was counted longer ago than a period. The instant that is
now is given for the device under each key.
-/
def trimUsageEach (instants : String → Int) (period : Int) (store : Store) : Store :=
  { store with inventory := store.inventory.trimUsage period instants }

/-- Drops the traffic of all devices that was counted longer ago than a period, where one instant is
now for all of them.
-/
def trimUsage (instant period : Int) (store : Store) : Store :=
  store.trimUsageEach (fun _ => instant) period

/-- The number of devices. -/
def size (store : Store) : Nat :=
  store.inventory.devices.size

/-- Whether there is no device. -/
def isEmpty (store : Store) : Bool :=
  store.inventory.devices.isEmpty

/-- A period as whole seconds and the nanoseconds above them. -/
def describePeriod (period : Int) : String :=
  "TimeDelta \x7b secs: " ++ toString (period / Time.secondNanos) ++ ", nanos: "
    ++ toString (period % Time.secondNanos) ++ " \x7d"

/-- The text that describes the store in logs. -/
def describe (store : Store) : String :=
  "DeviceStore \x7b devices: " ++ toString store.size ++ ", bin_interval: "
    ++ describePeriod store.binInterval ++ ", max_track: " ++ describePeriod store.reach ++ " \x7d"

end Store

end NetInventory
