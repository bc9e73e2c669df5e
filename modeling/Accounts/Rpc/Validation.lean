import Accounts.Rpc.Status
import Accounts.Rpc.Wire
import Accounts.Token.Outcome

/-!
# Checking tokens over remote calls

* `ValidationReply`: what the caller learns;
* `validationEnvelope`: the code and the reply for an outcome.
-/

namespace Accounts

/-- What a caller learns about a token. -/
structure ValidationReply where
  isValid : Bool := false
  userId : String := ""
  username : String := ""
  role : String := ""
  errorMessage : String := ""
  deriving DecidableEq

/-- The reply on the wire. -/
def ValidationReply.encode (r : ValidationReply) : Bytes :=
  Wire.flag 1 r.isValid ++ Wire.text 2 r.userId ++ Wire.text 3 r.username ++ Wire.text 4 r.role ++
    Wire.text 5 r.errorMessage

/-- The wording for an outcome that could not be reached. -/
def internalValidationMessage : String := "Internal server error during token validation"

/-- The code and the reply for the outcome of checking a token. -/
def validationEnvelope : Except TokenFault Verification → RpcCode × ValidationReply
  | .ok (.valid i) =>
    (.ok, { isValid := true, userId := i.userId.text, username := i.username, role := i.role.name })
  | .ok (.invalid reason) => (.unauthenticated, { errorMessage := reason.message })
  | .error _ => (.internal, { errorMessage := internalValidationMessage })

end Accounts
