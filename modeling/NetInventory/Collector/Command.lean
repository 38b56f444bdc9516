import NetInventory.Json.Record

/-! Commands to collectors. -/

namespace NetInventory

/-- What a collector is asked to do. -/
inductive CommandKind where
  /-- Scan hosts, given by name or IP address. -/
  | scanHost
  /-- Scan networks, given by address and length. -/
  | scanNet
deriving DecidableEq, Repr

namespace CommandKind

/-- The number that stands for a kind in messages. -/
def number : CommandKind → Int
  | scanHost => 1
  | scanNet => 2

/-- The kind that a number stands for. -/
def ofNumber? (number : Int) : Option CommandKind :=
  [scanHost, scanNet].find? (·.number = number)

/-- The JSON form of a kind. -/
def codec : Json.Codec CommandKind :=
  .integer number ofNumber?

end CommandKind

/-- A command to a collector. A collector that is given no commands makes its regular scan. -/
structure Command where
  kind : CommandKind
  arguments : List String
deriving DecidableEq

/-- The JSON form of a command. -/
def Command.codec : Json.Codec Command :=
  .record
    (.cons (.required "kind" CommandKind.codec) <|
      .cons (.required "arguments" (.list .string)) .nil)
    (fun command => (command.kind, command.arguments, ()))
    (fun (kind, arguments, _) => ⟨kind, arguments⟩)

/-- The name under which a collector is known. -/
abbrev CollectorName :=
  String

/-- The name that stands for every collector. -/
def CollectorName.everyone : CollectorName :=
  "all"

/-- The names of the collectors that can be configured. -/
def CollectorName.known : List CollectorName :=
  ["arp", "lldp", "neighbour", "nmap"]

end NetInventory
