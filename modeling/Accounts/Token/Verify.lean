import Accounts.Service.Basic
import Accounts.Token.Outcome

/-!
# Checking a token

A token that passes the local checks is looked up among the revoked ones. A look-up that fails
decides nothing.

* `Service.verify`: the outcome, and the store after the look-up;
* `Service.verifyAt`: the same for a place where tokens are presented, which is counted;
* **`verify_of_reject`**: a token that fails a local check is not looked up.
-/

namespace Accounts

/-- What a look-up says about a token that passed the local checks. -/
def judge (c : Claims) : Except RevocationFault Bool → Except TokenFault Verification
  | .error f => .error (.store f)
  | .ok true => .ok (.invalid .revoked)
  | .ok false => .ok (.valid c.identity)

/-- How an outcome is counted. -/
def checkOutcome : Except TokenFault Verification → CheckOutcome
  | .ok (.valid _) => .valid
  | .ok (.invalid _) => .invalid
  | .error _ => .error

namespace Service

variable (service : Service)

/-- The outcome of checking a token. -/
def verify (o : Occasion) (token : String) (store : RevocationStore) :
    Except TokenFault Verification × RevocationStore :=
  match service.signer.decodeVerified o.wall.seconds token with
  | .error reason => (.ok (.invalid reason), store)
  | .ok c =>
    let (found, store) := store.contains o.steady c.jti
    (judge c found, store)

/-- The outcome of checking a token that was presented somewhere. -/
def verifyAt (surface : Surface) (o : Occasion) (token : String) (st : State) :
    Except TokenFault Verification × State :=
  let (outcome, store) := service.verify o token st.revocations
  (outcome, { st with revocations := store }.count (.verification surface (checkOutcome outcome)))

/-- **A token that fails a local check is not looked up.** -/
theorem verify_of_reject {o : Occasion} {token : String} {reason : RejectReason}
    (h : service.signer.decodeVerified o.wall.seconds token = .error reason)
    (store : RevocationStore) :
    service.verify o token store = (.ok (.invalid reason), store) := by
  simp [verify, h]

theorem calls_verify_of_ok {o : Occasion} {token : String} {c : Claims}
    (h : service.signer.decodeVerified o.wall.seconds token = .ok c) (store : RevocationStore) :
    (service.verify o token store).2.calls = store.calls ++ [.contains c.jti] := by
  simp [verify, h, RevocationStore.contains, RevocationStore.called]

end Service

end Accounts
