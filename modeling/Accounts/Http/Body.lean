import Accounts.Http.MediaType
import Accounts.Http.Response

/-!
# JSON bodies

A body is taken if its type is JSON, if it is not too long, and if its value is what is asked for.

* `BodyFault`: why a body is not taken;
* `Request.read`: the value of a body;
* `BodyFault.respond`: the response.
-/

namespace Accounts

open Json

/-- Why a body is not taken. -/
inductive BodyFault
  | contentType
  | tooLong
  | broken
  | wrong (location : Option Location) (fault : Fault)

/-- The wording of a fault. -/
def BodyFault.message : BodyFault → String
  | .contentType => "Expected request with \x60Content-Type: application/json\x60"
  | .tooLong => "Failed to buffer the request body: length limit exceeded"
  | .broken => "Failed to parse the request body as JSON"
  | .wrong location fault =>
    "Failed to deserialize the JSON body into the target type: " ++
      (match location with
        | some l => l.text ++ ": "
        | none => "") ++ fault.message

/-- The response for a body that is not taken. -/
def BodyFault.respond (f : BodyFault) : Response :=
  (ApiError.mk "INVALID_JSON" f.message none).respond 400

/-- The most bytes of a body. -/
def maxBodyLength : Nat := 2 * 1024 * 1024

/-- Whether the first content type of some headers is JSON. -/
def Headers.sayJson (hs : Headers) : Bool :=
  ((hs.first? "content-type").bind headerText?).any MediaType.isJson

/-- The value of a body. -/
def Request.read {α : Type} (r : Request) (reader : Node → Reading α) : Except BodyFault α :=
  if !r.headers.sayJson then .error .contentType
  else if maxBodyLength < r.body.length then .error .tooLong
  else
    match (Document.ofBytes r.body).read reader with
    | .ok a => .ok a
    | .error .broken => .error .broken
    | .error (.wrong location fault) => .error (.wrong location fault)

end Accounts
