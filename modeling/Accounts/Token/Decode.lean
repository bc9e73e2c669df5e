import Accounts.Token.Claims
import Accounts.Token.Header
import Accounts.Text.Pieces
import Accounts.Settings.Basic

/-!
# Signing and checking tokens

A token is a header, claims and a signature, each in base64 for URLs, with dots between them. It is
checked in a fixed order: the algorithm, the form of the header, the signature, the claims, the
time, the issuer and the audience.

* `Signer`: the key, and whom the tokens are made by and for;
* `Signer.sign`: the token of some claims;
* `RejectReason`: why a token is refused;
* `Signer.decodeVerified`: the claims of a token that passes all checks that need no store;
* `decodePayload?`: the unsigned claims that a revocation needs.
-/

namespace Accounts

/-- Why a token is refused. -/
inductive RejectReason
  | unexpectedSigningMethod
  | invalidSignature
  | expired
  | malformed
  | revoked
  deriving DecidableEq

namespace RejectReason

/-- The code of a reason. -/
def code : RejectReason → String
  | .unexpectedSigningMethod => "UNEXPECTED_SIGNING_METHOD"
  | .invalidSignature => "INVALID_SIGNATURE"
  | .expired => "TOKEN_EXPIRED"
  | .malformed => "INVALID_TOKEN"
  | .revoked => "TOKEN_REVOKED"

/-- The wording of a reason. -/
def message : RejectReason → String
  | .unexpectedSigningMethod => "Unexpected signing method"
  | .invalidSignature => "Token invalid or expired"
  | .expired => "Token invalid or expired"
  | .malformed => "Invalid token"
  | .revoked => "Token has been revoked"

end RejectReason

/-- The key of the service, the issuer and the audience of its tokens, and how many seconds a token
lives. -/
structure Signer where
  key : Bytes
  issuer : String
  audience : String
  lifetime : Nat

namespace Signer

/-- The signer that the settings describe; a lifetime out of range is moved to the nearest end. -/
def ofSettings (s : AuthSettings) : Signer where
  key := Utf8.encode s.secret
  issuer := s.issuer
  audience := s.audience
  lifetime := (max 1 (min s.lifetimeHours maxLifetimeHours) * 3600).toNat

variable (signer : Signer)

/-- Header and claims with a dot between them. -/
def message (c : Claims) : List Char :=
  Header.text .hs256 ++ '.' :: Base64.encode .url (Utf8.encode c.json.text)

/-- The bytes of characters. -/
def bytesOf (cs : List Char) : Bytes := cs.flatMap String.utf8EncodeChar

/-- The token of some claims. -/
def sign (c : Claims) : String :=
  let m := message c
  String.ofList (m ++ '.' :: Algorithm.hs256.sign signer.key (bytesOf m))

/-- The algorithm that the first segment of a token names. -/
def checkAlgorithm (token : List Char) : Except RejectReason Algorithm :=
  match Header.algorithmName? ((Text.pieces '.' token).headD []) with
  | none => .error .malformed
  | some name =>
    match Algorithm.ofName? name with
    | some a => .ok a
    | none => .error .unexpectedSigningMethod

/-- A token cut at its last two dots: header, claims and signature. -/
def cut? (token : List Char) : Option (List Char × List Char × List Char) := do
  let (message, signature) ← Text.cutLast? '.' token
  let (header, payload) ← Text.cutLast? '.' message
  some (header, payload, signature)

/-- The claims in a segment; only an object is read as claims. -/
def readClaims? (payload : List Char) : Option Claims := do
  let doc ← Header.document? payload
  match doc.root with
  | .object _ _ => (doc.read Claims.read).toOption
  | _ => none

/-- The checks of the claims at the second `now`. The first and the last second of a token count. -/
def checkClaims (now : Int) (c : Claims) : Except RejectReason Claims :=
  if c.exp < 0 ∨ c.nbf < 0 then .error .malformed
  else if c.exp < now ∨ now < c.nbf then .error .expired
  else if c.iss ≠ signer.issuer ∨ c.aud ≠ signer.audience then .error .malformed
  else if c.jti = "" then .error .malformed
  else .ok c

/-- The claims of a token that passes all checks that need no store. -/
def decodeVerified (now : Int) (token : String) : Except RejectReason Claims := do
  let algorithm ← checkAlgorithm token.toList
  match cut? token.toList with
  | none => .error .malformed
  | some (header, payload, signature) =>
    if !Header.isWellFormed header then .error .malformed
    else if signature ≠ algorithm.sign signer.key (bytesOf (header ++ '.' :: payload)) then
      .error .invalidSignature
    else
      match readClaims? payload with
      | none => .error .malformed
      | some c => signer.checkClaims now c

end Signer

/-- The claims of a revocation from a token of exactly three segments; its signature is not looked
at. -/
def decodePayload? (token : String) : Option RevocationClaims :=
  match Text.pieces '.' token.toList with
  | [_, payload, _] => do
    let doc ← Header.document? payload
    (doc.read RevocationClaims.read).toOption
  | _ => none

end Accounts
