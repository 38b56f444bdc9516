import NetInventory.Json.Record
import NetInventory.Text.Uppercase

/-! Sightings: what one collector says about one device at one address. -/

namespace NetInventory

/-- The kinds of sightings. -/
inductive SightingKind where
  | lldp
  | neigh
  | nmap
  | arp
deriving DecidableEq, Repr

/-- The name of a kind in messages. -/
def SightingKind.label : SightingKind → String
  | lldp => "LLDP"
  | neigh => "NEIGH"
  | nmap => "NMAP"
  | arp => "ARP"

/-- A capability that a neighbour announces. -/
structure LldpCapability where
  capability : String
  enabled : Bool
deriving DecidableEq, Inhabited

/-- The JSON form of a capability. -/
def LldpCapability.codec : Json.Codec LldpCapability :=
  .record
    (.cons (.required "capability" .string) <| .cons (.required "enabled" .bool) .nil)
    (fun c => (c.capability, c.enabled, ()))
    (fun (capability, enabled, _) => ⟨capability, enabled⟩)

/-- A neighbour that announces itself on the link. -/
structure Lldp where
  ip : String
  mac : String
  lastUpdate : Int64
  sysName : String
  sysDesc : String
  chassisCapabilities : List LldpCapability
  deviceType : String
  medCapabilities : List LldpCapability
  inventoryHwRev : String
  inventorySoftRev : String
  inventorySerial : String
  inventoryAssetTag : String
  inventoryModel : String
  inventoryVendor : String
deriving DecidableEq, Inhabited

/-- The JSON form of a link neighbour. -/
def Lldp.codec : Json.Codec Lldp :=
  .record
    (.cons (.optional "ip" .string "") <|
      .cons (.optional "mac" .string "") <|
      .cons (.optional "lastUpdate" .int64 0) <|
      .cons (.optional "sysName" .string "") <|
      .cons (.optional "sysDesc" .string "") <|
      .cons (.optional "chassisCapabilities" (.list LldpCapability.codec) []) <|
      .cons (.optional "deviceType" .string "") <|
      .cons (.optional "medCapabilities" (.list LldpCapability.codec) []) <|
      .cons (.optional "inventoryHwRev" .string "") <|
      .cons (.optional "inventorySoftRev" .string "") <|
      .cons (.optional "inventorySerial" .string "") <|
      .cons (.optional "inventoryAssetTag" .string "") <|
      .cons (.optional "inventoryModel" .string "") <|
      .cons (.optional "inventoryVendor" .string "") .nil)
    (fun s =>
      (s.ip, s.mac, s.lastUpdate, s.sysName, s.sysDesc, s.chassisCapabilities, s.deviceType,
        s.medCapabilities, s.inventoryHwRev, s.inventorySoftRev, s.inventorySerial,
        s.inventoryAssetTag, s.inventoryModel, s.inventoryVendor, ()))
    (fun (ip, mac, lastUpdate, sysName, sysDesc, chassisCapabilities, deviceType,
        medCapabilities, hwRev, softRev, serial, assetTag, model, vendor, _) =>
      ⟨ip, mac, lastUpdate, sysName, sysDesc, chassisCapabilities, deviceType, medCapabilities,
        hwRev, softRev, serial, assetTag, model, vendor⟩)

/-- An entry of a neighbour table. -/
structure Neigh where
  ip : String
  mac : String
  lastUpdate : Int64
  state : String
  interface : String
deriving DecidableEq, Inhabited

/-- The JSON form of an entry of a neighbour table. -/
def Neigh.codec : Json.Codec Neigh :=
  .record
    (.cons (.optional "ip" .string "") <|
      .cons (.optional "mac" .string "") <|
      .cons (.optional "lastUpdate" .int64 0) <|
      .cons (.optional "state" .string "") <|
      .cons (.optional "interface" .string "") .nil)
    (fun s => (s.ip, s.mac, s.lastUpdate, s.state, s.interface, ()))
    (fun (ip, mac, lastUpdate, state, interface, _) => ⟨ip, mac, lastUpdate, state, interface⟩)

/-- A port that a scan found open. -/
structure NmapPort where
  port : UInt16
  protocol : String
  state : String
deriving DecidableEq, Inhabited

/-- The JSON form of an open port. -/
def NmapPort.codec : Json.Codec NmapPort :=
  .record
    (.cons (.required "port" .uint16) <|
      .cons (.required "protocol" .string) <|
      .cons (.required "state" .string) .nil)
    (fun p => (p.port, p.protocol, p.state, ()))
    (fun (port, protocol, state, _) => ⟨port, protocol, state⟩)

/-- A host that a scan found. -/
structure Nmap where
  ip : String
  mac : String
  lastUpdate : Int64
  hostname : String
  macVendor : String
  uptime : String
  lastBoot : String
  os : String
  openPorts : List NmapPort
deriving DecidableEq, Inhabited

/-- The JSON form of a scanned host. -/
def Nmap.codec : Json.Codec Nmap :=
  .record
    (.cons (.optional "ip" .string "") <|
      .cons (.optional "mac" .string "") <|
      .cons (.optional "lastUpdate" .int64 0) <|
      .cons (.optional "hostname" .string "") <|
      .cons (.optional "macVendor" .string "") <|
      .cons (.optional "uptime" .string "") <|
      .cons (.optional "lastBoot" .string "") <|
      .cons (.optional "os" .string "") <|
      .cons (.optional "openPorts" (.list NmapPort.codec) []) .nil)
    (fun s =>
      (s.ip, s.mac, s.lastUpdate, s.hostname, s.macVendor, s.uptime, s.lastBoot, s.os,
        s.openPorts, ()))
    (fun (ip, mac, lastUpdate, hostname, macVendor, uptime, lastBoot, os, openPorts, _) =>
      ⟨ip, mac, lastUpdate, hostname, macVendor, uptime, lastBoot, os, openPorts⟩)

/-- An entry of an address resolution table. -/
structure Arp where
  ip : String
  mac : String
  lastUpdate : Int64
  interface : String
deriving DecidableEq, Inhabited

/-- The JSON form of an entry of an address resolution table. -/
def Arp.codec : Json.Codec Arp :=
  .record
    (.cons (.optional "ip" .string "") <|
      .cons (.optional "mac" .string "") <|
      .cons (.optional "lastUpdate" .int64 0) <|
      .cons (.optional "interface" .string "") .nil)
    (fun s => (s.ip, s.mac, s.lastUpdate, s.interface, ()))
    (fun (ip, mac, lastUpdate, interface, _) => ⟨ip, mac, lastUpdate, interface⟩)

/-- What one collector says about one device at one address. -/
inductive Sighting where
  | lldp (entry : Lldp)
  | neigh (entry : Neigh)
  | nmap (entry : Nmap)
  | arp (entry : Arp)
deriving DecidableEq

namespace Sighting

/-- The kind of a sighting. -/
def kind : Sighting → SightingKind
  | lldp _ => .lldp
  | neigh _ => .neigh
  | nmap _ => .nmap
  | arp _ => .arp

/-- The address at which the device was seen. -/
def ip : Sighting → String
  | lldp entry => entry.ip
  | neigh entry => entry.ip
  | nmap entry => entry.ip
  | arp entry => entry.ip

/-- The hardware address that the collector gives, as it is written. -/
def mac : Sighting → String
  | lldp entry => entry.mac
  | neigh entry => entry.mac
  | nmap entry => entry.mac
  | arp entry => entry.mac

/-- When the collector last heard of the device. -/
def lastUpdate : Sighting → Int64
  | lldp entry => entry.lastUpdate
  | neigh entry => entry.lastUpdate
  | nmap entry => entry.lastUpdate
  | arp entry => entry.lastUpdate

/-- The sighting as it is published: both addresses in upper case. -/
def normalize : Sighting → Sighting
  | lldp entry =>
    lldp { entry with ip := Text.toUpper entry.ip, mac := Text.toUpper entry.mac }
  | neigh entry =>
    neigh { entry with ip := Text.toUpper entry.ip, mac := Text.toUpper entry.mac }
  | nmap entry =>
    nmap { entry with ip := Text.toUpper entry.ip, mac := Text.toUpper entry.mac }
  | arp entry =>
    arp { entry with ip := Text.toUpper entry.ip, mac := Text.toUpper entry.mac }

/-- The JSON value of a sighting. -/
def encode : Sighting → Json
  | lldp entry => Lldp.codec.encode entry
  | neigh entry => Neigh.codec.encode entry
  | nmap entry => Nmap.codec.encode entry
  | arp entry => Arp.codec.encode entry

/-- Reads a sighting of a kind from a text. -/
def ofBytes (kind : SightingKind) (bytes : ByteArray) : Except Json.Fault Sighting :=
  match kind with
  | .lldp => (Lldp.codec.ofBytes bytes).map lldp
  | .neigh => (Neigh.codec.ofBytes bytes).map neigh
  | .nmap => (Nmap.codec.ofBytes bytes).map nmap
  | .arp => (Arp.codec.ofBytes bytes).map arp

/-- Reads a sighting of a kind from a JSON value. -/
def ofJson (kind : SightingKind) (json : Json) : Except Json.Fault Sighting :=
  match kind with
  | .lldp => (Lldp.codec.ofJson json).map lldp
  | .neigh => (Neigh.codec.ofJson json).map neigh
  | .nmap => (Nmap.codec.ofJson json).map nmap
  | .arp => (Arp.codec.ofJson json).map arp

end Sighting

end NetInventory
