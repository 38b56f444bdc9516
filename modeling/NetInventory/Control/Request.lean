import NetInventory.Control.MediaType
import NetInventory.Control.Uri
import NetInventory.Json.Codec
import NetInventory.Json.Complaint

/-! Requests to the control service, and the answers to them. -/

namespace NetInventory.Control

/-- What a request is for, as far as the service tells requests apart. -/
inductive Method where
  | get
  /-- Like `get`, but only the head of the answer is wanted. -/
  | head
  | post
  | other (name : String)
deriving DecidableEq, Repr

/-- The method of a name, which has to be a token. -/
def Method.ofText? (name : String) : Option Method :=
  if !Text.isToken name then none
  else
    match name with
    | "GET" => some get
    | "HEAD" => some head
    | "POST" => some post
    | name => some (other name)

/-- A request. -/
structure Request where
  method : Method
  uri : Uri
  /-- What the body is said to be. -/
  contentType : Option String
  body : ByteArray

namespace Request

/-- Whether a text can stand in a header line: it has no control characters but tabs. -/
def isHeaderText (text : String) : Bool :=
  text.toList.all fun c => c = '\t' || (' ' ≤ c && c ≠ '\x7f')

/-- The request with the parts that are named, if there can be one. -/
def ofParts? (method uri : String) (contentType : Option String) (body : ByteArray)
    : Option Request := do
  let method ← Method.ofText? method
  let uri ← Uri.ofText? uri
  guard (contentType.all isHeaderText)
  return ⟨method, uri, contentType, body⟩

/-- Whether the body is said to be JSON. -/
def hasJson (request : Request) : Bool :=
  (request.contentType.bind MediaType.ofText?).any (·.isJson)

end Request

/-- The answer to a request. -/
structure Response where
  status : Nat
  /-- Whether the body is said to be JSON. An answer that is not carries a remark at most. -/
  isJson : Bool
  /-- The body, if it is JSON and was wanted. -/
  body : Option Json

namespace Response

/-- An answer with a JSON body. -/
def json (status : Nat) (body : Json) : Response :=
  ⟨status, true, some body⟩

/-- An answer without a JSON body. -/
def bare (status : Nat) : Response :=
  ⟨status, false, none⟩

/-- The answer as it goes out when only its head is wanted. -/
def withoutBody (response : Response) : Response :=
  { response with body := none }

end Response

/-- Why the service does not do what a request asks for. -/
inductive ControlError where
  | invalidRequest (message : String)
  | notFound (message : String)
  | internal (message : String)
deriving DecidableEq, Repr

namespace ControlError

/-- The error of a failure inside the service. Of the descriptions that were put around the failure,
one after the other, the last one is told.
-/
def ofFailure (message : String) (descriptions : List String) : ControlError :=
  internal (descriptions.getLast?.getD message)

/-- The error of a JSON text inside the service that something is wrong with. -/
def ofComplaint (complaint : Json.Complaint) : ControlError :=
  internal complaint.text

/-- The status that tells an error. -/
def status : ControlError → Nat
  | invalidRequest _ => 400
  | notFound _ => 404
  | internal _ => 500

/-- The wording of an error. -/
def message : ControlError → String
  | invalidRequest message => message
  | notFound message => message
  | internal message => message

/-- The answer that tells an error. -/
def response (error : ControlError) : Response :=
  .json error.status (.object [("error", .string error.message)])

end ControlError

end NetInventory.Control
