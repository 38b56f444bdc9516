import NetInventory.Device.Record
import NetInventory.Traffic.Tracker

/-! The devices that are known, and which of them an IP address belongs to. A device stands under
its hardware address, or under its lowest IP address while it has none.
-/

namespace NetInventory

/-- A device: what is known of it and its traffic. -/
structure StoredDevice where
  record : DeviceRecord
  usage : Tracker
deriving DecidableEq, Inhabited

/-- Whether an IP address is one of the device's. -/
def StoredDevice.holds (stored : StoredDevice) (ip : String) : Bool :=
  stored.record.ips.contains ip

/-- The devices under their keys, and the key of the device that each IP address belongs to. -/
structure Inventory where
  devices : SortedMap StoredDevice
  owners : SortedMap String
deriving DecidableEq

/-- The key of a record: its hardware address, or else its lowest IP address. -/
def DeviceRecord.key? (record : DeviceRecord) : Option String :=
  if record.macAddress.isEmpty then record.ips.head? else some record.macAddress

namespace Inventory

/-- The inventory without devices. -/
def empty : Inventory :=
  ⟨.empty, .empty⟩

instance : Inhabited Inventory :=
  ⟨empty⟩

/-- The key and the device that an IP address belongs to. -/
def owner? (inventory : Inventory) (ip : String) : Option (String × StoredDevice) := do
  let key ← inventory.owners.get? ip
  let stored ← inventory.devices.get? key
  return (key, stored)

/-- The device that an IP address belongs to. -/
def byIp? (inventory : Inventory) (ip : String) : Option StoredDevice :=
  (inventory.owner? ip).map (·.2)

/-- The key of the device that a record with the given addresses speaks of. A device with the same
hardware address comes first, and then the device of the first IP address that belongs to one,
unless both sides have a hardware address.
-/
def resolve (inventory : Inventory) (mac : String) (ips : List String) : Option String :=
  if !mac.isEmpty && inventory.devices.contains mac then
    some mac
  else
    ips.findSome? fun ip =>
      (inventory.owner? ip).bind fun (key, stored) =>
        if mac.isEmpty || stored.record.macAddress.isEmpty then some key else none

/-- The lowest key of a device that holds an IP address. -/
def holder? (devices : SortedMap StoredDevice) (ip : String) : Option String :=
  (devices.toList.find? fun (_, stored) => stored.holds ip).map (·.1)

/-- Gives an IP address that belonged to a key to another device that holds it. -/
def handOver (devices : SortedMap StoredDevice) (key : String) (owners : SortedMap String)
    (ip : String) : SortedMap String :=
  if owners.get? ip = some key then
    match holder? devices ip with
    | some successor => owners.insert ip successor
    | none => owners.erase ip
  else
    owners

/-- Removes a device. Its IP addresses go to other devices that hold them. -/
def take (inventory : Inventory) (key : String) : Option (StoredDevice × Inventory) :=
  (inventory.devices.get? key).map fun stored =>
    let devices := inventory.devices.erase key
    (stored, ⟨devices, stored.record.ips.foldl (handOver devices key) inventory.owners⟩)

/-- Stores a device under a key. Its IP addresses belong to it from now on. -/
def put (inventory : Inventory) (key : String) (stored : StoredDevice) : Inventory where
  devices := inventory.devices.insert key stored
  owners := stored.record.ips.foldl (fun owners ip => owners.insert ip key) inventory.owners

/-- The devices whose records fulfil every condition, in the order of their keys. -/
def matching (inventory : Inventory) (conditions : List (DeviceRecord → Bool))
    : List (String × StoredDevice) :=
  inventory.devices.toList.filter fun (_, stored) => conditions.all (· stored.record)

/-- Removes devices one after the other, and gives their records. -/
def takeAll (inventory : Inventory) : List String → List DeviceRecord × Inventory
  | [] => ([], inventory)
  | key :: keys =>
    match inventory.take key with
    | some (stored, rest) =>
      let (records, rest) := rest.takeAll keys
      (stored.record :: records, rest)
    | none => inventory.takeAll keys

/-- Removes the devices whose records fulfil every condition. -/
def prune (inventory : Inventory) (conditions : List (DeviceRecord → Bool))
    : List DeviceRecord × Inventory :=
  inventory.takeAll ((inventory.matching conditions).map (·.1))

/-- The inventory with no flow attached to any device. -/
def withoutConnections (inventory : Inventory) : Inventory :=
  { inventory with
    devices := inventory.devices.mapValues fun stored =>
      { stored with record := { stored.record with connections := [] } } }

/-- Attaches a flow to the device that its client belongs to, and says whether there is one. -/
def attach (inventory : Inventory) (connection : Connection) : Bool × Inventory :=
  match inventory.owner? connection.clientAddress with
  | none => (false, inventory)
  | some (key, stored) =>
    let record :=
      { stored.record with connections := stored.record.connections ++ [connection] }
    (true, { inventory with devices := inventory.devices.insert key { stored with record } })

/-- Attaches flows in their order, and gives the number of those attached. -/
def attachAll (inventory : Inventory) : List Connection → Nat × Inventory
  | [] => (0, inventory)
  | connection :: rest =>
    let (attached, inventory) := inventory.attach connection
    let (count, inventory) := inventory.attachAll rest
    (if attached then count + 1 else count, inventory)

/-- Replaces the flows of all devices. -/
def replaceConnections (inventory : Inventory) (connections : List Connection)
    : Nat × Inventory :=
  inventory.withoutConnections.attachAll connections

/-- Counts traffic for the device that an IP address belongs to, and says whether there is one. -/
def addUsage (inventory : Inventory) (ip : String) (amount : Amount) (now : Int)
    : Bool × Inventory :=
  match inventory.owner? ip with
  | none => (false, inventory)
  | some (key, stored) =>
    let usage := stored.usage.add amount now
    (true, { inventory with devices := inventory.devices.insert key { stored with usage } })

/-- Drops the traffic of all devices that was counted longer ago than a period. Time passes between
the devices, so the instant that is now is given for the device under each key.
-/
def trimUsage (inventory : Inventory) (period : Int) (instants : String → Int) : Inventory :=
  { inventory with
    devices := inventory.devices.mapEntries fun key stored =>
      { stored with usage := stored.usage.restrict period (instants key) } }

end Inventory

end NetInventory
