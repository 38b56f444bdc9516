import NetInventory.Address.Ip

/-! Networks, given by an address and the number of bits that their addresses share. -/

namespace NetInventory

/-- A network. -/
structure Network where
  address : IpAddress
  length : Nat
deriving DecidableEq, Repr

namespace Network

/-- The network that a text names: an address, a slash, and a number of bits that the address
has.
-/
def ofText? (text : String) : Option Network :=
  let front := text.toList.takeWhile (· ≠ '/')
  match text.toList.dropWhile (· ≠ '/') with
  | [] => none
  | _ :: back => do
    let length ← Text.readNatural? (.ofList back)
    let address ← IpAddress.ofText? (.ofList front)
    if length ≤ address.bits then return ⟨address, length⟩ else none

/-- Whether a text names a network. -/
def isText (text : String) : Bool :=
  (ofText? text).isSome

end Network

end NetInventory
