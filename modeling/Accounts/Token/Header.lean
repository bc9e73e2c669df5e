import Accounts.Token.Algorithm
import Accounts.Token.KeyMaterial

/-!
# Headers of tokens

A header is JSON between base64. It is looked at twice: first only for the name of its algorithm,
then for the types of all members that a header may have.

* `Header.text`: the header that this service writes;
* `Header.algorithmName?`: the name of the algorithm;
* `Header.isWellFormed`: all members have their types.
-/

namespace Accounts.Header

open Json

/-- The header that goes with an algorithm. -/
def json (a : Algorithm) : Json := .object [("typ", .string "JWT"), ("alg", .string a.name)]

/-- The written header. -/
def text (a : Algorithm) : List Char := Base64.encode .url (Utf8.encode (json a).text)

/-- The document in a segment. -/
def document? (segment : List Char) : Option Document :=
  (Base64.decode? .url segment).map Document.ofBytes

/-- Reads a record with the algorithm's name. -/
def readAlgorithmName (node : Node) : Reading String := do
  let f ← Record.fields "RawHeader" [.required "alg" readText] node
  f.get "alg" readText

/-- The name of the algorithm in a segment. -/
def algorithmName? (segment : List Char) : Option String := do
  let doc ← document? segment
  (doc.read readAlgorithmName).toOption

/-- The members that a header may have. -/
def fields : List Field :=
  [.nullable "typ" readText,
    .required "alg" (readNamed (KeyMaterial.keyAlgorithms.take 12)),
    .nullable "cty" readText, .nullable "jku" readText, .nullable "jwk" KeyMaterial.check,
    .nullable "kid" readText, .nullable "x5u" readText, .nullable "x5c" KeyMaterial.readTexts,
    .nullable "x5t" readText, .nullable "x5t#S256" readText]

/-- A segment holds a header whose members have their types. -/
def isWellFormed (segment : List Char) : Bool :=
  match document? segment with
  | some doc => KeyMaterial.succeeds (doc.read (Record.fields "Header" fields))
  | none => false

end Accounts.Header
