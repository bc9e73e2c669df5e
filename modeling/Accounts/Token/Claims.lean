import Accounts.User

/-!
# Claims

What a token says about its bearer, between which seconds it holds, and by whom and for whom it was
made.

* `Claims`: the nine claims, all of them required;
* `Claims.json`, `Claims.read`: the JSON form;
* `Claims.expiresAt`: the end of the token as a point in time.
-/

namespace Accounts

open Json

/-- The claims of a token; times are seconds since the start of 1970. -/
structure Claims where
  sub : Uuid
  username : String
  role : Role
  jti : String
  iss : String
  aud : String
  iat : Int
  nbf : Int
  exp : Int
  deriving DecidableEq

namespace Claims

/-- The bearer that the claims name. -/
def identity (c : Claims) : Identity := ⟨c.sub, c.username, c.role⟩

/-- The end of the token; the first point in time of the calendar if that does not hold it. -/
def expiresAt (c : Claims) : Timestamp := (Timestamp.ofSeconds? c.exp).getD Timestamp.earliest

theorem expiresAt_of_held {c : Claims} (hfirst : Timestamp.firstSecond ≤ c.exp)
    (hlast : c.exp ≤ Timestamp.lastSecond) : c.expiresAt = ⟨c.exp, 0⟩ := by
  have hstart : Timestamp.ofSeconds? c.exp = some ⟨c.exp, 0⟩ := if_pos ⟨hfirst, hlast⟩
  rw [expiresAt, hstart, Option.getD_some]

/-- The JSON form. -/
def json (c : Claims) : Json :=
  .object [("sub", .string c.sub.text), ("username", .string c.username), ("role", c.role.json),
    ("jti", .string c.jti), ("iss", .string c.iss), ("aud", .string c.aud),
    ("iat", .integer c.iat), ("nbf", .integer c.nbf), ("exp", .integer c.exp)]

/-- The fields of the claims. -/
def fields : List Field :=
  [.required "sub" Uuid.read, .required "username" readText, .required "role" Role.read,
    .required "jti" readText, .required "iss" readText, .required "aud" readText,
    .required "iat" readInteger, .required "nbf" readInteger, .required "exp" readInteger]

/-- Reads claims. -/
def read (node : Node) : Reading Claims := do
  let f ← Record.fields "Claims" fields node
  return {
    sub := ← f.get "sub" Uuid.read
    username := ← f.get "username" readText
    role := ← f.get "role" Role.read
    jti := ← f.get "jti" readText
    iss := ← f.get "iss" readText
    aud := ← f.get "aud" readText
    iat := ← f.get "iat" readInteger
    nbf := ← f.get "nbf" readInteger
    exp := ← f.get "exp" readInteger }

end Claims

/-- The two claims that a revocation needs. -/
structure RevocationClaims where
  jti : Option String
  exp : Int
  deriving DecidableEq

namespace RevocationClaims

/-- The fields of a revocation's claims. -/
def fields : List Field :=
  [⟨"jti", fun n => (readOptional readText n).map fun _ => (), true, true⟩,
    .required "exp" readInteger]

/-- Reads the claims of a revocation. -/
def read (node : Node) : Reading RevocationClaims := do
  let f ← Record.fields "RevocationClaims" fields node
  return { jti := ← f.get? "jti" readText, exp := ← f.get "exp" readInteger }

end RevocationClaims

end Accounts
