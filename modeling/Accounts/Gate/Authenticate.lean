import Accounts.Gate.Bearer
import Accounts.Gate.Roles
import Accounts.Token.Verify

/-!
# The gate by token

* `callerOf`, `Service.authenticate`: who the bearer of the token in a request's headers is;
* `Guard`: what a request has to show before it is served;
* `Guard.pass`: the caller of a request, or why it is refused.
-/

namespace Accounts

/-- The caller that an outcome shows. -/
def callerOf : Except TokenFault Verification → Except AuthFault Identity
  | .ok (.valid i) => .ok i
  | .ok (.invalid reason) => .error (.rejected reason)
  | .error _ => .error .verificationUnavailable

/-- Who the bearer of the token in a request's headers is. -/
def Service.authenticate (service : Service) (o : Occasion) (hs : Headers) (st : State) :
    Except AuthFault Identity × State :=
  match bearerToken hs with
  | .error f => (.error f, st)
  | .ok token =>
    let (outcome, st) := service.verifyAt .http o token st
    (callerOf outcome, st)

/-- What a request has to show: nothing, a token, or a token of one of some roles. -/
inductive Guard
  | open
  | signedIn
  | roles (gate : RoleGate)

/-- The caller of a request, if its guard asks for one. -/
def Guard.pass (service : Service) (o : Occasion) (hs : Headers) (st : State) :
    Guard → Except AuthFault (Option Identity) × State
  | .open => (.ok none, st)
  | .signedIn =>
    let (caller, st) := service.authenticate o hs st
    (caller.map some, st)
  | .roles gate =>
    let (caller, st) := service.authenticate o hs st
    (do
      let i ← caller
      gate.check (some i)
      return some i, st)

end Accounts
