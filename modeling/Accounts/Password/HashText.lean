import Accounts.Base64
import Accounts.Decimal.Natural
import Accounts.Text.Pieces

/-!
# The text of a password hash

A stored hash is a line of fields after dollar signs: the algorithm, its version, its parameters,
the salt and the digest. Reading only asks for the form of the fields; whether the algorithm exists
and its parameters make sense is seen when a password is tried.

* `HashText`: the fields;
* `HashText.parse?`, `HashText.text`.
-/

namespace Accounts

/-- The fields of a stored hash. -/
structure HashText where
  algorithm : String
  version : Option Nat
  parameters : List (String × String)
  salt : Option String
  digest : Option Bytes

namespace HashText

/-- A name: one to 32 small letters, digits and hyphens. -/
def isName (cs : List Char) : Bool :=
  !cs.isEmpty && cs.length ≤ 32 &&
    cs.all fun c => c.isLower || c.isDigit || c == '-'

/-- A value: at most 64 letters, digits and four marks. -/
def isValue (cs : List Char) : Bool :=
  cs.length ≤ 64 &&
    cs.all fun c => c.isAlphanum || c == '/' || c == '+' || c == '.' || c == '-'

/-- A number of 32 bits in decimal without leading zeros. -/
def decimal? (cs : List Char) : Option Nat :=
  match cs with
  | '0' :: _ :: _ => none
  | _ => (Decimal.nat? cs).filter (· < UInt32.size)

/-- A name and a value with an equals sign between them. -/
def parameter? (cs : List Char) : Option (String × String) :=
  match Text.pieces '=' cs with
  | [name, value] =>
    if isName name && isValue value then some (String.ofList name, String.ofList value) else none
  | _ => none

/-- Parameters with commas between them, at most 127 characters. -/
def parameters? (cs : List Char) : Option (List (String × String)) :=
  if 127 < cs.length then none else (Text.pieces ',' cs).mapM parameter?

/-- A salt: four to 64 characters of a value. -/
def salt? (cs : List Char) : Option String :=
  if 4 ≤ cs.length && isValue cs then some (String.ofList cs) else none

/-- A digest: ten to 64 bytes in base64. -/
def digest? (cs : List Char) : Option Bytes :=
  (Base64.decode? .standard cs).filter fun bytes => 10 ≤ bytes.length && bytes.length ≤ 64

/-- The version in a field that is one: an equals sign after the letter, and no comma. -/
def takeVersion? : List (List Char) → Option (Option Nat × List (List Char))
  | [] => some (none, [])
  | field :: rest =>
    match Text.dropStart? ['v', '='] field with
    | some value =>
      if field.contains ',' then some (none, field :: rest)
      else if isValue value then (decimal? value).map fun n => (some n, rest)
      else none
    | none => some (none, field :: rest)

/-- The parameters in a field that holds an equals sign. -/
def takeParameters? : List (List Char) → Option (List (String × String) × List (List Char))
  | [] => some ([], [])
  | field :: rest =>
    if field.contains '=' then (parameters? field).map fun ps => (ps, rest)
    else some ([], field :: rest)

/-- The salt and the digest, as far as they are there. -/
def takeRest? : List (List Char) → Option (Option String × Option Bytes)
  | [] => some (none, none)
  | [salt] => (salt? salt).map fun s => (some s, none)
  | [salt, digest] => do
    let s ← salt? salt
    let d ← digest? digest
    some (some s, some d)
  | _ => none

/-- The fields of a text. -/
def parse? (s : String) : Option HashText :=
  match Text.pieces '$' s.toList with
  | [] :: algorithm :: fields => do
    if !isName algorithm then none
    let (version, fields) ← takeVersion? fields
    let (parameters, fields) ← takeParameters? fields
    let (salt, digest) ← takeRest? fields
    some ⟨String.ofList algorithm, version, parameters, salt, digest⟩
  | _ => none

/-- The text of the fields. -/
def text (h : HashText) : String :=
  let version := h.version.map fun n => "v=" ++ Decimal.ofNat n
  let parameters :=
    if h.parameters.isEmpty then none
    else some (String.intercalate "," (h.parameters.map fun (k, v) => k ++ "=" ++ v))
  let digest := h.digest.map fun d => String.ofList (Base64.encode .standard d)
  let fields := [some h.algorithm, version, parameters, h.salt, digest].filterMap id
  String.join (fields.map ("$" ++ ·))

end HashText

end Accounts
