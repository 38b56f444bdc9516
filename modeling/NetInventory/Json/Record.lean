import NetInventory.Json.Codec

/-! Records in JSON. A record is written as an object with its fields in their declared order. It
is read from an object in any order, or from an array that lists the fields in the declared
order.
-/

namespace NetInventory.Json

/-- A field of a record. -/
structure Field (α : Type) where
  name : String
  codec : Codec α
  /-- The value of a field that is not there; a field without one has to be there. -/
  fallback : Option α
  /-- The values with which the field is left out in writing. -/
  omits : α → Bool

namespace Field

variable {α : Type}

/-- A field that has to be there. -/
def required (name : String) (codec : Codec α) : Field α :=
  ⟨name, codec, none, fun _ => false⟩

/-- A field that may be absent and has a value then. -/
def optional (name : String) (codec : Codec α) (fallback : α) : Field α :=
  ⟨name, codec, some fallback, fun _ => false⟩

/-- A field that may be absent and is left out in writing with some values. -/
def sparse (name : String) (codec : Codec α) (fallback : α) (omits : α → Bool) : Field α :=
  ⟨name, codec, some fallback, omits⟩

/-- The value of the field when it is not there. -/
def absent (field : Field α) : Except Fault α :=
  match field.fallback with
  | some value => .ok value
  | none => .error .mismatch

end Field

/-- The fields of a record in their declared order, with the type of what they hold together. -/
inductive Fields : Type → Type 1 where
  | nil : Fields Unit
  | cons {α σ : Type} (field : Field α) (rest : Fields σ) : Fields (α × σ)

namespace Fields

/-- What is written for the fields. -/
def members {σ : Type} : Fields σ → σ → List (String × Json)
  | .nil, () => []
  | .cons field rest, (value, values) =>
    if field.omits value then rest.members values
    else (field.name, field.codec.encode value) :: rest.members values

/-- Whether a field has a name. -/
def hasName {σ : Type} (name : String) : Fields σ → Bool
  | .nil => false
  | .cons field rest => field.name = name || rest.hasName name

/-- Checks the value of the field that has a name. -/
def checkValue {σ : Type} (depth : Nat) (name : String) (draft : Draft)
    : Fields σ → Except Fault Unit
  | .nil => .ok ()
  | .cons field rest =>
    if field.name = name then (field.codec.decode depth draft).map (fun _ => ())
    else rest.checkValue depth name draft

/-- Checks the members of an object in their order: names can be kept, no field is there twice,
and the values fit. `unknown` checks the value of a member that is no field, and `seen` holds the
names in front.
-/
def checkMembers {σ : Type} (fields : Fields σ) (unknown : Nat → Draft → Except Fault Unit)
    (depth : Nat) (seen : List String) : List (Option String × Draft) → Except Fault Unit
  | [] => .ok ()
  | (none, _) :: _ => .error .malformed
  | (some name, value) :: rest =>
    if !fields.hasName name then
      match unknown depth value with
      | .error fault => .error fault
      | .ok () => fields.checkMembers unknown depth seen rest
    else if seen.contains name then
      .error .mismatch
    else
      match fields.checkValue depth name value with
      | .error fault => .error fault
      | .ok () => fields.checkMembers unknown depth (name :: seen) rest

/-- Takes the values of the fields from the members of an object. -/
def gather {σ : Type} (depth : Nat) (members : List (Option String × Draft))
    : Fields σ → Except Fault σ
  | .nil => .ok ()
  | .cons field rest => do
    let value ←
      match members.lookup (some field.name) with
      | some draft => field.codec.decode depth draft
      | none => field.absent
    return (value, ← rest.gather depth members)

/-- Takes the values of the fields from an array in their order; items that are no field are too
many.
-/
def ofItems {σ : Type} (depth : Nat) : Fields σ → List Draft → Except Fault σ
  | .nil, [] => .ok ()
  | .nil, _ :: _ => .error .malformed
  | .cons field rest, [] => do
    let value ← field.absent
    return (value, ← rest.ofItems depth [])
  | .cons field rest, item :: items => do
    let value ← field.codec.decode depth item
    return (value, ← rest.ofItems depth items)

end Fields

/-- Passes over a value, whose text has to be whole. -/
def skip (_ : Nat) (draft : Draft) : Except Fault Unit :=
  if draft.intact then .ok () else .error .malformed

/-- Reads a value as one to be kept, and drops it. -/
def drop (depth : Nat) (draft : Draft) : Except Fault Unit :=
  (keep depth draft).map (fun _ => ())

namespace Codec

variable {α σ : Type}

/-- Reads the values of fields from the members of an object. -/
def readMembers (fields : Fields σ) (unknown : Nat → Draft → Except Fault Unit)
    (members : List (Option String × Draft)) (depth : Nat) : Except Fault σ := do
  fields.checkMembers unknown depth [] members
  fields.gather depth members

/-- Records with the given fields. Members that are no field are passed over. -/
def record (fields : Fields σ) (split : α → σ) (build : σ → α) : Codec α where
  encode value := .object (fields.members (split value))
  decode depth draft :=
    match draft with
    | .object members => (enter depth (readMembers fields skip members)).map build
    | .array items => (enter depth (fields.ofItems · items)).map build
    | other => .error (misfit other)

/-- Records with the given fields that are read from objects only. Members that are no field are
read as values of any shape before they are dropped.
-/
def objectRecord (fields : Fields σ) (split : α → σ) (build : σ → α) : Codec α where
  encode value := .object (fields.members (split value))
  decode depth draft :=
    match draft with
    | .object members => (enter depth (readMembers fields drop members)).map build
    | other => .error (misfit other)

end Codec

end NetInventory.Json
