import Accounts.Token.Decode
import Accounts.Revocation.Fault

/-!
# Outcomes of work on tokens

* `Verification`: a token's bearer, or why it is refused;
* `TokenFault`: work on a token could not be finished;
* `LogoutFault`: a token could not be revoked at its bearer's wish.
-/

namespace Accounts

/-- The outcome of checking a token. -/
inductive Verification
  | valid (bearer : Identity)
  | invalid (reason : RejectReason)
  deriving DecidableEq

/-- Work on a token that could not be finished. -/
inductive TokenFault
  | signing (text : String)
  | store (fault : RevocationFault)

/-- The wording of a token's fault. -/
def TokenFault.message : TokenFault → String
  | .signing text => "토큰 서명 실패: " ++ text
  | .store fault => "폐기 목록 접근 실패: " ++ fault.message

/-- Why a logout fails. -/
inductive LogoutFault
  | invalidFormat
  | malformed
  | missingTokenId
  | expired
  | store (fault : RevocationFault)
  deriving DecidableEq

namespace LogoutFault

/-- The code of a failed logout. -/
def code : LogoutFault → String
  | .invalidFormat => "INVALID_AUTH_HEADER"
  | .malformed => "INVALID_TOKEN"
  | .missingTokenId => "MISSING_TOKEN_ID"
  | .expired => "TOKEN_EXPIRED"
  | .store _ => "REVOCATION_FAILED"

/-- The wording of a failed logout. -/
def message : LogoutFault → String
  | .invalidFormat => "Invalid token format"
  | .malformed => "Invalid token"
  | .missingTokenId => "Token missing identifier, cannot revoke"
  | .expired => "Token already expired"
  | .store _ => "Failed to revoke token"

/-- Only a store that fails is the service's own fault. -/
def status : LogoutFault → Nat
  | .store _ => 500
  | _ => 401

end LogoutFault

end Accounts
