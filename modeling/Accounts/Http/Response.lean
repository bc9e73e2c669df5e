import Accounts.Json.Reading

/-!
# Responses

A response has a status, a body with its type, and two marks: the methods that a path allows, and
the code under which a gate refused the request.

* `Response`;
* `ApiError`, `ApiSuccess`: the two envelopes of JSON bodies.
-/

namespace Accounts

open Json

/-- An answer to a request. -/
structure Response where
  status : Nat
  contentType : Option String := none
  body : String := ""
  allow : Option String := none
  rejection : Option String := none
  deriving DecidableEq

namespace Response

/-- A response without a body. -/
def empty (status : Nat) : Response := { status := status }

/-- A response with a text. -/
def plain (status : Nat) (text : String) : Response :=
  { status := status, contentType := some "text/plain; charset=utf-8", body := text }

/-- A response with a JSON value. -/
def json (status : Nat) (value : Json) : Response :=
  { status := status, contentType := some "application/json", body := value.text }

/-- The same response under the code of a gate. -/
def rejected (r : Response) (code : String) : Response := { r with rejection := some code }

end Response

/-- The envelope of an error. -/
structure ApiError where
  code : String
  message : String
  details : Option Json := none

namespace ApiError

/-- The JSON form; details are written if there are any. -/
def json (e : ApiError) : Json :=
  .object ([("code", .string e.code), ("message", .string e.message)] ++
    (e.details.map fun d => ("details", d)).toList)

/-- The wording of an error. -/
def display (e : ApiError) : String := "[" ++ e.code ++ "] " ++ e.message

/-- The response with a status. -/
def respond (e : ApiError) (status : Nat) : Response := .json status e.json

/-- Reads an error; null details are none. -/
def read (node : Node) : Reading ApiError := do
  let f ← Record.fields "ApiErrorResponse"
    [.required "code" readText, .required "message" readText, .nullable "details" readFree] node
  return {
    code := ← f.get "code" readText
    message := ← f.get "message" readText
    details := ← f.get? "details" readFree }

end ApiError

/-- The envelope of a success. -/
structure ApiSuccess where
  message : String
  data : Option Json := none

namespace ApiSuccess

/-- The JSON form; data is written if there is any. -/
def json (s : ApiSuccess) : Json :=
  .object (("message", .string s.message) :: (s.data.map fun d => ("data", d)).toList)

/-- The response with status 200. -/
def respond (s : ApiSuccess) : Response := .json 200 s.json

/-- Reads a success; null data is none. -/
def read (node : Node) : Reading ApiSuccess := do
  let f ← Record.fields "ApiSuccess"
    [.required "message" readText, .nullable "data" readFree] node
  return { message := ← f.get "message" readText, data := ← f.get? "data" readFree }

end ApiSuccess

end Accounts
