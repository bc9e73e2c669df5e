import Accounts.Decimal.Natural

/-!
# What can go wrong in a store of revoked tokens

* `RevocationFault`: the store cannot be reached or does not answer in time. Neither says anything
  about a token.
-/

namespace Accounts

/-- What a store of revoked tokens reports. -/
inductive RevocationFault
  | unavailable (text : String)
  | timeout (millis : Nat)
  deriving DecidableEq

/-- The wording of a report. -/
def RevocationFault.message : RevocationFault → String
  | .unavailable text => "Revocation store unavailable: " ++ text
  | .timeout millis => "Revocation store timed out after " ++ Decimal.ofNat millis ++ "ms"

end Accounts
