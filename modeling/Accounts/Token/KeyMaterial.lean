import Accounts.Json.Reading

/-!
# Keys in a token's header

A header may carry a public key. Nobody uses it, but a header whose key is not in the form of one is
no header.

* `KeyMaterial.check`: a member `jwk` is in the form of a key: the common members have their types,
  and the others describe one of four kinds of key.
-/

namespace Accounts.KeyMaterial

open Json

/-- A list of texts. -/
def readTexts : Node → Reading (List String) := readItems readText "a sequence"

/-- The names of the algorithms that a key may be for. -/
def keyAlgorithms : List (String × Unit) :=
  ["HS256", "HS384", "HS512", "ES256", "ES384", "RS256", "RS384", "RS512", "PS256", "PS384",
    "PS512", "EdDSA", "RSA1_5", "RSA-OAEP", "RSA-OAEP-256"].map (·, ())

/-- The names of the curves. -/
def curves : List (String × Unit) := ["P-256", "P-384", "P-521", "Ed25519"].map (·, ())

/-- The members that every kind of key may have. -/
def commonFields : List Field :=
  [.nullable "use" readText, .nullable "key_ops" readTexts,
    .nullable "alg" (readNamed keyAlgorithms), .nullable "kid" readText, .nullable "x5u" readText,
    .nullable "x5c" readTexts, .nullable "x5t" readText, .nullable "x5t#S256" readText]

/-- The members that tell the kinds of key apart. -/
def kinds : List (List Field) :=
  let kind (name : String) : Field := .required "kty" (readNamed [(name, ())])
  [[kind "EC", .required "crv" (readNamed curves), .required "x" readText,
      .required "y" readText],
    [kind "RSA", .required "n" readText, .required "e" readText],
    [kind "oct", .required "k" readText],
    [kind "OKP", .required "crv" (readNamed curves), .required "x" readText]]

/-- Whether reading succeeds. -/
def succeeds {α : Type} : Reading α → Bool
  | .ok _ => true
  | .error _ => false

/-- A key. -/
def check (node : Node) : Reading Unit :=
  match node with
  | .object members closed =>
    let isCommon : Option String × Node → Bool := fun m =>
      commonFields.any fun f => some f.name == m.1
    let (common, own) := members.partition isCommon
    let whole := members.all fun m => m.1.isSome && (ofNode? 124 m.2).isSome
    if closed && whole && succeeds (Record.fields "Jwk" commonFields (.object common true)) &&
        kinds.any fun fs => succeeds (Record.fields "Jwk" fs (.object own true))
    then .ok ()
    else .error .broken
  | _ => .error .broken

end Accounts.KeyMaterial
