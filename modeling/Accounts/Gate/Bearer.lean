import Accounts.Http.Headers
import Accounts.Http.Response
import Accounts.Token.Outcome

/-!
# The gate's refusals and the bearer header

* `AuthFault`: why a gate refuses a request, with code, wording and status;
* `bearerToken`: the token of the first authorization header;
* `LogoutFault.respond`, `AuthFault.respond`: refusals as responses, marked with their code.
-/

namespace Accounts

/-- Why a gate refuses a request. -/
inductive AuthFault
  | missingToken
  | invalidHeader
  | rejected (reason : RejectReason)
  | verificationUnavailable
  | missingIdentity
  | forbidden
  deriving DecidableEq

namespace AuthFault

/-- The status of a refusal. -/
def status : AuthFault → Nat
  | .verificationUnavailable => 500
  | .forbidden => 403
  | _ => 401

/-- The code of a refusal. -/
def code : AuthFault → String
  | .missingToken => "MISSING_TOKEN"
  | .invalidHeader => "INVALID_AUTH_HEADER"
  | .rejected reason => reason.code
  | .verificationUnavailable => "VERIFICATION_FAILED"
  | .missingIdentity => "UNAUTHENTICATED"
  | .forbidden => "INSUFFICIENT_PERMISSION"

/-- The wording of a refusal. -/
def message : AuthFault → String
  | .missingToken => "Authorization header required"
  | .invalidHeader => "Invalid authorization header format"
  | .rejected reason => reason.message
  | .verificationUnavailable => "Internal server error during token validation"
  | .missingIdentity => "Authentication required"
  | .forbidden => "Insufficient permission"

/-- The response of a refusal. -/
def respond (f : AuthFault) : Response :=
  ((ApiError.mk f.code f.message none).respond f.status).rejected f.code

end AuthFault

/-- The response of a failed logout. -/
def LogoutFault.respond (f : LogoutFault) : Response :=
  ((ApiError.mk f.code f.message none).respond f.status).rejected f.code

/-- What stands before a token. -/
def bearerStart : List Char := ['B', 'e', 'a', 'r', 'e', 'r', ' ']

/-- The text after the start of a bearer header. -/
def afterBearer? (value : String) : Option String :=
  (Text.dropStart? bearerStart value.toList).map String.ofList

/-- The token of the first authorization header. -/
def bearerToken (hs : Headers) : Except AuthFault String :=
  match hs.first? "authorization" with
  | none => .error .missingToken
  | some value =>
    match (headerText? value).bind afterBearer? with
    | none => .error .invalidHeader
    | some token => if token = "" then .error .invalidHeader else .ok token

end Accounts
