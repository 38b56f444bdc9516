import NetInventory.Address.Ip
import NetInventory.Json.Codec

/-! Socket addresses: an IP address and a port. -/

namespace NetInventory

/-- A socket address. An address of the sixth version may name the zone that it belongs to. -/
inductive SocketAddress where
  | v4 (address : Ipv4) (port : UInt16)
  | v6 (address : Ipv6) (zone : UInt32) (port : UInt16)
deriving DecidableEq, Repr

namespace SocketAddress

/-- Reads a number below a bound, with any number of zeros in front. -/
def number? (bound : Nat) (text : List Char) : Option (Nat × List Char) :=
  let digits := text.takeWhile Char.isDigit
  let value := Text.digitsValue digits
  if digits.isEmpty || bound ≤ value then none else some (value, text.drop digits.length)

/-- Reads a colon and a port at the end of a text. -/
def port? : List Char → Option UInt16
  | ':' :: rest =>
    match number? UInt16.size rest with
    | some (port, []) => some (.ofNat port)
    | _ => none
  | _ => none

/-- Reads the zone of an address, which a percent sign introduces. No zone is zone zero. -/
def zone? : List Char → Option (UInt32 × List Char)
  | '%' :: rest => (number? UInt32.size rest).map fun (zone, rest) => (.ofNat zone, rest)
  | rest => some (0, rest)

/-- The socket address that a text names: an address and a port, with brackets around an address of
the sixth version.
-/
def ofText? (text : String) : Option SocketAddress :=
  match text.toList with
  | '[' :: rest => do
    let (address, rest) ← Ipv6.read? rest
    let (zone, rest) ← zone? rest
    match rest with
    | ']' :: rest => return .v6 address zone (← port? rest)
    | _ => none
  | chars => do
    let (address, rest) ← Ipv4.read? chars
    return .v4 address (← port? rest)

/-- The text of a socket address. -/
def text : SocketAddress → String
  | v4 address port => address.text ++ ":" ++ toString port.toNat
  | v6 address zone port =>
    let zone := if zone = 0 then "" else "%" ++ toString zone.toNat
    "[" ++ address.text ++ zone ++ "]:" ++ toString port.toNat

/-- The IP address of a socket address. -/
def ip : SocketAddress → IpAddress
  | v4 address _ => .v4 address
  | v6 address _ _ => .v6 address

/-- The JSON form of a socket address. -/
def codec : Json.Codec SocketAddress where
  encode address := .string address.text
  decode depth draft :=
    match Json.Codec.string.decode depth draft with
    | .error fault => .error fault
    | .ok text =>
      match ofText? text with
      | some address => .ok address
      | none => .error .mismatch

end SocketAddress

end NetInventory
