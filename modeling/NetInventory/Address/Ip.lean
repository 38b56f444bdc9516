import NetInventory.Text.Decimal
import NetInventory.Text.Hex

/-! IP addresses and their texts. An address of the fourth version is four decimal numbers; one of
the sixth version is eight hexadecimal groups, of which one run of zeros may be left out and the
last two may be written as an address of the fourth version.
-/

namespace NetInventory

/-- An IP address of the fourth version. -/
structure Ipv4 where
  a : UInt8
  b : UInt8
  c : UInt8
  d : UInt8
deriving DecidableEq, Repr

/-- An IP address of the sixth version. -/
structure Ipv6 where
  groups : Vector UInt16 8
deriving DecidableEq, Repr

/-- An IP address. -/
inductive IpAddress where
  | v4 (address : Ipv4)
  | v6 (address : Ipv6)
deriving DecidableEq, Repr

namespace Ipv4

/-- Reads a number up to 255 of at most three digits, with no zero in front of another digit. -/
def octet? (text : List Char) : Option (UInt8 × List Char) :=
  let digits := text.takeWhile Char.isDigit
  let value := Text.digitsValue digits
  if digits.isEmpty || 3 < digits.length || (digits.head? = some '0' && 1 < digits.length)
      || 255 < value then none
  else some (.ofNat value, text.drop digits.length)

/-- Reads a point. -/
def point? : List Char → Option (List Char)
  | '.' :: rest => some rest
  | _ => none

/-- Reads an address in front of a text. -/
def read? (text : List Char) : Option (Ipv4 × List Char) := do
  let (a, rest) ← octet? text
  let (b, rest) ← octet? (← point? rest)
  let (c, rest) ← octet? (← point? rest)
  let (d, rest) ← octet? (← point? rest)
  return (⟨a, b, c, d⟩, rest)

/-- The text of an address. -/
def text (address : Ipv4) : String :=
  ".".intercalate ([address.a, address.b, address.c, address.d].map fun n => toString n.toNat)

/-- The address as two groups of an address of the sixth version. -/
def groups (address : Ipv4) : List UInt16 :=
  [address.a.toUInt16 <<< 8 ||| address.b.toUInt16,
    address.c.toUInt16 <<< 8 ||| address.d.toUInt16]

/-- Whether the address stands for the machine itself. -/
def isLoopback (address : Ipv4) : Bool :=
  address.a = 127

/-- Whether the address stands for all addresses of the machine. -/
def isUnspecified (address : Ipv4) : Bool :=
  address = ⟨0, 0, 0, 0⟩

/-- Whether the address stands for a group of machines. -/
def isMulticast (address : Ipv4) : Bool :=
  224 ≤ address.a && address.a < 240

/-- Whether the address stands for all machines around. -/
def isBroadcast (address : Ipv4) : Bool :=
  address = ⟨255, 255, 255, 255⟩

/-- Whether a service can listen at the address wherever it runs: nobody has to give the address to
the machine first.
-/
def isListenable (address : Ipv4) : Bool :=
  address.isLoopback || address.isUnspecified || address.isMulticast || address.isBroadcast

end Ipv4

namespace Ipv6

/-- Reads a group of at most four hexadecimal digits. -/
def group? (text : List Char) : Option (UInt16 × List Char) :=
  let digits := text.takeWhile (fun c => (Text.hexValue? c).isSome)
  if digits.isEmpty || 4 < digits.length then none
  else
    let value := (digits.filterMap Text.hexValue?).foldl (fun value d => value * 16 + d) 0
    some (.ofNat value, text.drop digits.length)

/-- Reads the colon in front of a group; the first group has none. -/
def colon? (first : Bool) (text : List Char) : Option (List Char) :=
  if first then some text
  else
    match text with
    | ':' :: rest => some rest
    | _ => none

/-- Reads groups with colons between, up to a number. The last two may be an address of the fourth
version, which ends the groups; the second component tells whether they are.
-/
def readGroups (first : Bool) : Nat → List Char → List UInt16 × Bool × List Char
  | 0, text => ([], false, text)
  | room + 1, text =>
    match colon? first text with
    | none => ([], false, text)
    | some body =>
      match if 1 ≤ room then Ipv4.read? body else none with
      | some (address, rest) => (address.groups, true, rest)
      | none =>
        match group? body with
        | none => ([], false, text)
        | some (group, rest) =>
          let (more, embedded, rest) := readGroups false room rest
          (group :: more, embedded, rest)

/-- The address with some groups in front and some at the end, and zeros between. -/
def ofGroups (front back : List UInt16) : Ipv6 :=
  let all := front ++ List.replicate (8 - front.length - back.length) 0 ++ back
  ⟨.ofFn fun i => all.getD i.val 0⟩

/-- Reads an address in front of a text. Two colons stand for one zero group at least. -/
def read? (text : List Char) : Option (Ipv6 × List Char) :=
  let (front, embedded, rest) := readGroups true 8 text
  if front.length = 8 then
    some (ofGroups front [], rest)
  else if embedded then
    none
  else
    match rest with
    | ':' :: ':' :: rest =>
      let (back, _, rest) := readGroups true (7 - front.length) rest
      some (ofGroups front back, rest)
    | _ => none

/-- The text of a group, without zeros in front. -/
def groupText (group : UInt16) : String :=
  .ofList (Nat.toDigits 16 group.toNat)

/-- The text of groups with colons between. -/
def groupsText (groups : List UInt16) : String :=
  ":".intercalate (groups.map groupText)

/-- The number of zero groups in front. -/
def zeroRun (groups : List UInt16) : Nat :=
  (groups.takeWhile (· = 0)).length

/-- The place and the length of the longest run of zero groups; of runs equally long the first. -/
def longestZeroRun (groups : List UInt16) : Nat × Nat :=
  (List.range groups.length).foldl
    (fun (start, length) i =>
      let run := zeroRun (groups.drop i)
      if length < run then (i, run) else (start, length))
    (0, 0)

/-- The address of the fourth version that has its place among the others here. -/
def mapped? (address : Ipv6) : Option Ipv4 :=
  match address.groups.toList with
  | [0, 0, 0, 0, 0, 0xFFFF, high, low] =>
    some ⟨(high >>> 8).toUInt8, high.toUInt8, (low >>> 8).toUInt8, low.toUInt8⟩
  | _ => none

/-- The text of an address. The longest run of zero groups is left out if it is longer than one
group, and an address of the fourth version in its place among the others is written as such.
-/
def text (address : Ipv6) : String :=
  match address.mapped? with
  | some mapped => "::ffff:" ++ mapped.text
  | none =>
    let groups := address.groups.toList
    let (start, length) := longestZeroRun groups
    if 1 < length then
      groupsText (groups.take start) ++ "::" ++ groupsText (groups.drop (start + length))
    else
      groupsText groups

/-- Whether the address stands for the machine itself. -/
def isLoopback (address : Ipv6) : Bool :=
  address.groups.toList = [0, 0, 0, 0, 0, 0, 0, 1]

/-- Whether the address stands for all addresses of the machine. -/
def isUnspecified (address : Ipv6) : Bool :=
  address.groups.toList = [0, 0, 0, 0, 0, 0, 0, 0]

end Ipv6

namespace IpAddress

/-- The address that a text names. -/
def ofText? (text : String) : Option IpAddress :=
  match Ipv4.read? text.toList with
  | some (address, []) => some (.v4 address)
  | _ =>
    match Ipv6.read? text.toList with
    | some (address, []) => some (.v6 address)
    | _ => none

/-- The text of an address. -/
def text : IpAddress → String
  | v4 address => address.text
  | v6 address => address.text

/-- Whether a service can listen at the address wherever it runs. An address of the fourth version
that is written as one of the sixth is treated like itself.
-/
def isListenable : IpAddress → Bool
  | v4 address => address.isListenable
  | v6 address =>
    address.isLoopback || address.isUnspecified || address.mapped?.any (·.isListenable)

/-- The number of bits of an address. -/
def bits : IpAddress → Nat
  | v4 _ => 32
  | v6 _ => 128

end IpAddress

end NetInventory
