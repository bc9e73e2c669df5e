import Accounts.Token.Decode

/-!
# Issuing tokens

* `Issued`: a new token with its claims;
* `Signer.issue`: the token of a user from this second on, for the signer's lifetime.
-/

namespace Accounts

/-- A new token with the claims that it carries. -/
structure Issued where
  token : String
  claims : Claims

namespace Issued

/-- The identifier by which the token can be revoked. -/
def tokenId (i : Issued) : String := i.claims.jti

/-- The end of the token. -/
def expiresAt (i : Issued) : Timestamp := i.claims.expiresAt

end Issued

namespace Signer

variable (signer : Signer)

/-- The claims of a new token. -/
def newClaims (i : Identity) (tokenId : Uuid) (now : Timestamp) : Claims where
  sub := i.userId
  username := i.username
  role := i.role
  jti := tokenId.text
  iss := signer.issuer
  aud := signer.audience
  iat := now.seconds
  nbf := now.seconds
  exp := now.seconds + signer.lifetime

/-- The token of a user from this second on. -/
def issue (i : Identity) (tokenId : Uuid) (now : Timestamp) : Issued :=
  let claims := signer.newClaims i tokenId now
  ⟨signer.sign claims, claims⟩

end Signer

end Accounts
