import NetInventory.Sighting
import NetInventory.Traffic.Connection

/-! Device records: what is known of one device, put together from sightings. A later sighting
counts where both say something, and nothing that only one of them says is lost.
-/

namespace NetInventory

/-- What is known of one device. Each kind of sighting is kept by the address it was made at. -/
structure DeviceRecord where
  macAddress : String
  ipv4Address : String
  /-- Seconds since the epoch at which the record last changed. -/
  lastUpdate : Int64
  lldp : SortedMap Lldp
  neigh : SortedMap Neigh
  nmap : SortedMap Nmap
  arp : SortedMap Arp
  connections : List Connection
deriving DecidableEq, Inhabited

namespace DeviceRecord

/-- The record that says nothing. -/
def blank : DeviceRecord :=
  ⟨"", "", 0, .empty, .empty, .empty, .empty, []⟩

/-- The record that says nothing but a hardware address. -/
def withMac (mac : String) : DeviceRecord :=
  { blank with macAddress := mac }

/-- A set of texts, as a map whose values carry nothing. -/
abbrev TextSet :=
  SortedMap Unit

/-- The addresses at which collectors saw the device. -/
def sightedIpSet (record : DeviceRecord) : TextSet :=
  (((record.neigh.mapValues fun _ => ()).union (record.lldp.mapValues fun _ => ())).union
    (record.nmap.mapValues fun _ => ())).union (record.arp.mapValues fun _ => ())

/-- The addresses of the device: those at which collectors saw it, and its own if it names one. -/
def ipSet (record : DeviceRecord) : TextSet :=
  if record.ipv4Address.isEmpty then record.sightedIpSet
  else record.sightedIpSet.insert record.ipv4Address ()

/-- The addresses at which collectors saw the device, in order. -/
def sightedIps (record : DeviceRecord) : List String :=
  record.sightedIpSet.keys

/-- The addresses of the device, in order. -/
def ips (record : DeviceRecord) : List String :=
  record.ipSet.keys

/-- Whether the record names neither a hardware address nor an IP address. -/
def isEmpty (record : DeviceRecord) : Bool :=
  record.macAddress.isEmpty && record.ips.isEmpty

/-- Text that a later text replaces unless it is empty. -/
def laterText (existing incoming : String) : String :=
  if incoming.isEmpty then existing else incoming

/-- The greater of two times. -/
def laterTime (existing incoming : Int64) : Int64 :=
  if existing ≤ incoming then incoming else existing

/-- Brings an incoming record into an existing one. Text that the incoming record has replaces
the existing one, the later time counts, an incoming sighting replaces the existing one at the
same address, and flows that the existing record does not have are added behind.
-/
def merge (existing incoming : DeviceRecord) : DeviceRecord where
  macAddress := laterText existing.macAddress incoming.macAddress
  ipv4Address := laterText existing.ipv4Address incoming.ipv4Address
  lastUpdate := laterTime existing.lastUpdate incoming.lastUpdate
  lldp := existing.lldp.union incoming.lldp
  neigh := existing.neigh.union incoming.neigh
  nmap := existing.nmap.union incoming.nmap
  arp := existing.arp.union incoming.arp
  connections :=
    existing.connections
      ++ incoming.connections.filter (fun c => !existing.connections.contains c)

/-- What the fields of a record hold together. -/
abbrev Contents :=
  String × String × Int64 × SortedMap Lldp × SortedMap Neigh × SortedMap Nmap × SortedMap Arp
    × List Connection × Unit

/-- The fields of a record in JSON; maps and flows are left out when there are none. -/
def fields : Json.Fields Contents :=
  .cons (.optional "macAddress" .string "") <|
    .cons (.optional "IPv4Address" .string "") <|
    .cons (.optional "LastUpdate" .int64 0) <|
    .cons (.sparse "lldp" (.map Lldp.codec) .empty (·.isEmpty)) <|
    .cons (.sparse "neigh" (.map Neigh.codec) .empty (·.isEmpty)) <|
    .cons (.sparse "nmap" (.map Nmap.codec) .empty (·.isEmpty)) <|
    .cons (.sparse "arp" (.map Arp.codec) .empty (·.isEmpty)) <|
    .cons (.sparse "connections" (.list Connection.codec) [] (·.isEmpty)) .nil

/-- What the fields of a record hold. -/
def contents (r : DeviceRecord) : Contents :=
  (r.macAddress, r.ipv4Address, r.lastUpdate, r.lldp, r.neigh, r.nmap, r.arp, r.connections, ())

/-- The record whose fields hold given values. -/
def ofContents : Contents → DeviceRecord
  | (macAddress, ipv4Address, lastUpdate, lldp, neigh, nmap, arp, connections, ()) =>
    ⟨macAddress, ipv4Address, lastUpdate, lldp, neigh, nmap, arp, connections⟩

/-- The JSON form of a record. -/
def codec : Json.Codec DeviceRecord :=
  .record fields contents ofContents

end DeviceRecord

/-- Why a sighting or a record is not taken in. -/
inductive RecordError where
  /-- The hardware address is none. -/
  | invalidMac (mac : String)
  /-- A sighting does not say where the device was seen. -/
  | missingIp (kind : SightingKind)
  /-- The record names no address of any sort. -/
  | unkeyable
  /-- The hardware address is the one that stands for an unknown one. -/
  | zeroMac
deriving DecidableEq, Repr

/-- The wording of an error. -/
def RecordError.message : RecordError → String
  | invalidMac mac => "invalid MAC address: '" ++ mac ++ "'"
  | missingIp kind => kind.label ++ " entry missing IP field"
  | unkeyable => "record has no MAC and no IP address, cannot be keyed"
  | zeroMac => "record carries the all-zero MAC address"

/-- The record that says what one sighting says. The sighting has to name its IP address. -/
def DeviceRecord.ofSighting (sighting : Sighting) : Except RecordError DeviceRecord :=
  if sighting.ip.isEmpty then
    .error (.missingIp sighting.kind)
  else
    let record :=
      { blank with macAddress := sighting.mac, lastUpdate := sighting.lastUpdate }
    .ok <| match sighting with
      | .lldp entry => { record with lldp := .singleton entry.ip entry }
      | .neigh entry => { record with neigh := .singleton entry.ip entry }
      | .nmap entry => { record with nmap := .singleton entry.ip entry }
      | .arp entry => { record with arp := .singleton entry.ip entry }

end NetInventory
