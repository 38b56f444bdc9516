import NetInventory.Sighting

/-! The topics under which messages travel on the bus. -/

namespace NetInventory

/-- A topic of the bus. -/
inductive Topic where
  | lldp
  | neigh
  | nmap
  | arp
  | connections
  | dataUse
  | device
  | deviceEntry
  | alert
deriving DecidableEq, Repr

namespace Topic

/-- Every topic. -/
def all : List Topic :=
  [lldp, neigh, nmap, arp, connections, dataUse, device, deviceEntry, alert]

/-- The text of a topic on the bus. -/
def text : Topic → String
  | lldp => "arista:discovery:lldp"
  | neigh => "arista:discovery:neigh"
  | nmap => "arista:discovery:nmap"
  | arp => "arista:discovery:arp"
  | connections => "arista:discovery:connections"
  | dataUse => "arista:discovery:dataUse"
  | device => "arista:discovery:device"
  | deviceEntry => "arista:discovery:deviceEntry"
  | alert => "arista:alertd:alert"

/-- The topic that a text names. -/
def ofText? (text : String) : Option Topic :=
  all.find? (·.text = text)

/-- The kind of sightings that travel under a topic. -/
def sightingKind? : Topic → Option SightingKind
  | lldp => some .lldp
  | neigh => some .neigh
  | nmap => some .nmap
  | arp => some .arp
  | connections | dataUse | device | deviceEntry | alert => none

/-- Whether sightings travel under a topic. -/
def isCollector (topic : Topic) : Bool :=
  topic.sightingKind?.isSome

/-- The topic under which sightings of a kind travel. -/
def ofSightingKind : SightingKind → Topic
  | .lldp => lldp
  | .neigh => neigh
  | .nmap => nmap
  | .arp => arp

/-- The topics that the inventory is fed from, in the order in which they are subscribed to. -/
def ingested : List Topic :=
  [lldp, neigh, nmap, arp, connections, dataUse]

end Topic

end NetInventory
