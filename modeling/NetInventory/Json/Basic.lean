/-! JSON values: what a document says once its text has been read. -/

namespace NetInventory

/-- A number in a JSON value. A whole number written without fraction and exponent that fits
64 bits is known by its value; any other is kept as it is written.
-/
inductive Number where
  | integer (value : Int)
  | real (literal : String)
deriving DecidableEq

/-- A JSON value. The members of an object stand in the order in which they are written. -/
inductive Json where
  | null
  | bool (value : Bool)
  | number (value : Number)
  | string (value : String)
  | array (items : List Json)
  | object (members : List (String × Json))

namespace Json

instance : Inhabited Json :=
  ⟨null⟩

/-- The JSON value of a whole number. -/
def ofInt (value : Int) : Json :=
  .number (.integer value)

/-- The JSON value of a natural number. -/
def ofNat (value : Nat) : Json :=
  .number (.integer value)

/-- The member of an object under a name; nothing for any other value. -/
def member? (json : Json) (name : String) : Option Json :=
  match json with
  | .object members => members.lookup name
  | _ => none

/-- The content of a string; nothing for any other value. -/
def string? : Json → Option String
  | .string value => some value
  | _ => none

end Json

end NetInventory
