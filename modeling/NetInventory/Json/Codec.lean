import NetInventory.Json.Draft
import NetInventory.Json.Printer
import NetInventory.SortedMap

/-! Types with a JSON form. A codec writes the values of a type and reads them back from a draft.
Reading fails for the reason that comes first in the text: the text breaks off, holds something
that cannot be kept or nests too deeply, or a value does not fit the type.
-/

namespace NetInventory.Json

/-- Why a text is not read as a value of a type. -/
inductive Fault where
  /-- The text is no JSON, or holds what cannot be kept. -/
  | malformed
  /-- The text is JSON, but not of the type's shape. -/
  | mismatch
deriving DecidableEq, Repr

/-- How the values of a type are written and read. Reading takes the number of arrays and objects
that may still be open inside one another.
-/
structure Codec (α : Type) where
  encode : α → Json
  decode : Nat → Draft → Except Fault α

/-- How many arrays and objects may be open inside one another. -/
def depthLimit : Nat :=
  127

/-- The fault of a value that stands where another kind of value is wanted. -/
def misfit : Draft → Fault
  | .broken | .number none | .string none => .malformed
  | _ => .mismatch

/-- Goes into an array or object, unless too many are open already. -/
def enter {α : Type} (depth : Nat) (inside : Nat → Except Fault α) : Except Fault α :=
  match depth with
  | 0 => .error .malformed
  | depth + 1 => inside depth

/-- Reads every element and stops at the first fault. -/
def readAll {α β : Type} (read : α → Except Fault β) : List α → Except Fault (List β)
  | [] => .ok []
  | head :: tail =>
    match read head with
    | .error fault => .error fault
    | .ok value =>
      match readAll read tail with
      | .error fault => .error fault
      | .ok values => .ok (value :: values)

namespace Codec

variable {α β : Type}

/-- Reads the value that a JSON value stands for. -/
def ofJson (codec : Codec α) (json : Json) : Except Fault α :=
  codec.decode depthLimit (.ofJson json)

/-- Reads a text that holds one value and nothing behind it. -/
def ofBytes (codec : Codec α) (bytes : ByteArray) : Except Fault α :=
  let (draft, rest) := Draft.read (tokens bytes)
  match codec.decode depthLimit draft with
  | .error fault => .error fault
  | .ok value => if rest.isEmpty then .ok value else .error .malformed

/-- Reads the first value of a text and passes over what stands behind it. -/
def ofFront (codec : Codec α) (bytes : ByteArray) : Except Fault α :=
  codec.decode depthLimit (Draft.read (tokens bytes)).1

/-- The text of a value. -/
def text (codec : Codec α) (value : α) : String :=
  (codec.encode value).render

/-- The text of a value as bytes. -/
def toBytes (codec : Codec α) (value : α) : ByteArray :=
  (codec.encode value).toBytes

/-- Text. -/
def string : Codec String where
  encode := .string
  decode _ draft :=
    match draft with
    | .string (some value) => .ok value
    | other => .error (misfit other)

/-- Truth values. -/
def bool : Codec Bool where
  encode := .bool
  decode _ draft :=
    match draft with
    | .bool value => .ok value
    | other => .error (misfit other)

/-- A type whose values are written as whole numbers; reading refuses the numbers that stand for
none.
-/
def integer (encode : α → Int) (decode? : Int → Option α) : Codec α where
  encode value := .ofInt (encode value)
  decode _ draft :=
    match draft with
    | .number (some (.integer value)) =>
      match decode? value with
      | some result => .ok result
      | none => .error .mismatch
    | other => .error (misfit other)

/-- Whole numbers between bounds, both included. -/
def between (least greatest : Int) (value : Int) : Option Int :=
  if least ≤ value && value ≤ greatest then some value else none

/-- Numbers of 64 bits with a sign. -/
def int64 : Codec Int64 :=
  integer Int64.toInt
    (fun value =>
      (between Int64.minValue.toInt Int64.maxValue.toInt value).map Int64.ofInt)

/-- Numbers of 64 bits without a sign. -/
def uint64 : Codec UInt64 :=
  integer (fun value => value.toNat)
    (fun value => (between 0 (UInt64.size - 1) value).map (fun n => UInt64.ofNat n.toNat))

/-- Numbers of 16 bits without a sign. -/
def uint16 : Codec UInt16 :=
  integer (fun value => value.toNat)
    (fun value => (between 0 (UInt16.size - 1) value).map (fun n => UInt16.ofNat n.toNat))

/-- Lists, as arrays. -/
def list (item : Codec α) : Codec (List α) where
  encode values := .array (values.map item.encode)
  decode depth draft :=
    match draft with
    | .array items => enter depth fun depth => readAll (item.decode depth) items
    | other => .error (misfit other)

/-- Reads a member of an object that may have any name. -/
def readMember (read : Draft → Except Fault α) (member : Option String × Draft)
    : Except Fault (String × α) :=
  match member.1 with
  | none => .error .malformed
  | some name => (read member.2).map fun value => (name, value)

/-- Maps from names, as objects; of two members with one name the later counts. -/
def map (value : Codec α) : Codec (SortedMap α) where
  encode entries := .object (entries.toList.map fun entry => (entry.1, value.encode entry.2))
  decode depth draft :=
    match draft with
    | .object members =>
      enter depth fun depth =>
        (readAll (readMember (value.decode depth)) members).map .ofList
    | other => .error (misfit other)

/-- Values that may be missing, which null stands for. -/
def option (value : Codec α) : Codec (Option α) where
  encode
    | some content => value.encode content
    | none => .null
  decode depth draft :=
    match draft with
    | .null => .ok none
    | other => (value.decode depth other).map some

/-- A type of finitely many named values. A value is its name, or an object whose one member has
that name and the value null.
-/
def choice (name : α → String) (ofName? : String → Option α) : Codec α where
  encode value := .string (name value)
  decode depth draft :=
    let find (text : String) : Except Fault α :=
      match ofName? text with
      | some value => .ok value
      | none => .error .mismatch
    match draft with
    | .string (some text) => find text
    | .object members =>
      enter depth fun _ =>
        match members with
        | (none, _) :: _ | [] => .error .malformed
        | (some text, value) :: rest => do
          let result ← find text
          match value, rest with
          | .null, [] => .ok result
          | .null, _ :: _ => .error .malformed
          | other, _ => .error (misfit other)
    | other => .error (misfit other)

end Codec

mutual

/-- Keeps a value whatever it is, with the members of its objects in the order of their names. -/
def keep (depth : Nat) : Draft → Except Fault Json
  | .null => .ok .null
  | .bool value => .ok (.bool value)
  | .number (some value) => .ok (.number value)
  | .string (some value) => .ok (.string value)
  | .array items =>
    match depth with
    | 0 => .error .malformed
    | depth + 1 => (keepItems depth items).map .array
  | .object members =>
    match depth with
    | 0 => .error .malformed
    | depth + 1 =>
      (keepMembers depth members).map fun kept => .object (SortedMap.ofList kept).toList
  | .number none | .string none | .broken => .error .malformed

/-- Keeps the items of an array. -/
def keepItems (depth : Nat) : List Draft → Except Fault (List Json)
  | [] => .ok []
  | item :: rest =>
    match keep depth item with
    | .error fault => .error fault
    | .ok value => (keepItems depth rest).map (value :: ·)

/-- Keeps the members of an object. -/
def keepMembers (depth : Nat)
    : List (Option String × Draft) → Except Fault (List (String × Json))
  | [] => .ok []
  | (none, _) :: _ => .error .malformed
  | (some name, item) :: rest =>
    match keep depth item with
    | .error fault => .error fault
    | .ok value => (keepMembers depth rest).map ((name, value) :: ·)

end

/-- Values of any shape. -/
def Codec.any : Codec Json where
  encode := id
  decode := keep

end NetInventory.Json
