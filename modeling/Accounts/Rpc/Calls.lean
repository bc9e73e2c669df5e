import Accounts.Account.Work
import Accounts.Rpc.Validation
import Accounts.Token.Verify

/-!
# Remote calls

* `RpcFault`: a call that fails, with its code, its wording and its details;
* `Service.validateToken`: whose a token is;
* `Service.getUser`: the record of a user.
-/

namespace Accounts

/-- A call that fails. -/
structure RpcFault where
  code : RpcCode
  message : String
  details : Bytes := []
  deriving DecidableEq

/-- What a caller learns about a user. -/
structure UserReply where
  id : String
  name : String
  username : String
  email : String
  phoneNumber : String
  address : String
  deriving DecidableEq

/-- The reply about a user. -/
def UserReply.ofUser (u : User) : UserReply :=
  ⟨u.id.text, u.name, u.username, u.email, u.phoneNumber, u.address⟩

/-- How a fault is told to a remote caller. -/
def RpcFault.ofAccount : AccountFault → RpcFault
  | .invalidId => { code := .invalidArgument, message := "invalid user ID format" }
  | .notFound => { code := .notFound, message := "user not found" }
  | _ => { code := .internal, message := "failed to get user" }

/-- The answer for the outcome of checking a token; a refusal has the reply as its details. -/
def validationAnswer (outcome : Except TokenFault Verification) : Except RpcFault ValidationReply :=
  let (code, reply) := validationEnvelope outcome
  if code = .ok then .ok reply else .error ⟨code, reply.errorMessage, reply.encode⟩

namespace Service

variable (service : Service)

/-- Whose a token is. -/
def validateToken (o : Occasion) (token : String) (st : State) :
    Except RpcFault ValidationReply × State :=
  let (outcome, st) := service.verifyAt .rpc o token st
  (validationAnswer outcome, st)

/-- The record of a user. -/
def getUser (id : String) (users : UserStore) : Except RpcFault UserReply :=
  if Text.trimmed id = "" then
    .error { code := .invalidArgument, message := "user ID cannot be empty" }
  else ((lookUp id users).mapError RpcFault.ofAccount).map UserReply.ofUser

end Service

end Accounts
