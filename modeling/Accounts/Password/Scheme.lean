import Accounts.Digest.Argon2
import Accounts.Password.Fault
import Accounts.Password.HashText

/-!
# Hashing passwords

* `PasswordScheme`: a way to hash a password with a salt and to try a password against a hash;
* `PasswordScheme.argon2id`: the scheme of this service.
-/

namespace Accounts

/-- A way to hash passwords and to try them. -/
structure PasswordScheme where
  hash : (salt : Bytes) → (password : String) → Except PasswordFault String
  verify : (password hash : String) → Except PasswordFault Unit

namespace Argon2

/-- The variant with a name. -/
def Variant.ofName? (s : String) : Option Variant :=
  if s = "argon2d" then some .d
  else if s = "argon2i" then some .i
  else if s = "argon2id" then some .id
  else none

/-- The work that a new hash takes. -/
def defaultCost : Cost := ⟨19456, 2, 1⟩

/-- The version of new hashes. -/
def currentVersion : Nat := 0x13

/-- What the parameters of a hash set. -/
structure Parameters where
  cost : Cost
  data : Bytes

/-- A value of at most `limit` bytes in base64. -/
def limited? (limit : Nat) (value : String) : Option Bytes :=
  (Base64.decode? .standard value.toList).filter fun bytes => bytes.length ≤ limit

/-- One parameter read into the others; of equal names the last counts. -/
def Parameters.set? (p : Parameters) (name value : String) : Option Parameters :=
  if name = "m" then
    (HashText.decimal? value.toList).map fun n => { p with cost := { p.cost with memory := n } }
  else if name = "t" then
    (HashText.decimal? value.toList).map fun n => { p with cost := { p.cost with passes := n } }
  else if name = "p" then
    (HashText.decimal? value.toList).map fun n => { p with cost := { p.cost with lanes := n } }
  else if name = "keyid" then (limited? 8 value).map fun _ => p
  else if name = "data" then (limited? 32 value).map fun d => { p with data := d }
  else none

/-- The parameters of a hash; those that it does not name have the values of new hashes. -/
def parameters? (h : HashText) : Option Parameters :=
  h.parameters.foldlM (fun p (name, value) => p.set? name value) ⟨defaultCost, []⟩

/-- The work can be done: at least one pass and one lane, and eight blocks for each lane. -/
def Cost.isValid (c : Cost) : Bool :=
  1 ≤ c.passes && 1 ≤ c.lanes && c.lanes < 0x1000000 && 8 * c.lanes ≤ c.memory

/-- The version of a hash: one of two, and the current one if none is named. -/
def version? (h : HashText) : Option Nat :=
  match h.version with
  | none => some currentVersion
  | some v => if v = 0x10 ∨ v = 0x13 then some v else none

/-- The digest that a password gives with the salt and the parameters of a hash, in as many bytes as
the digest of the hash has. -/
def digestFor? (password : String) (h : HashText) : Option Bytes := do
  let salt ← h.salt
  let expected ← h.digest
  let p ← parameters? h
  if !p.cost.isValid then none
  let variant ← Variant.ofName? h.algorithm
  let version ← version? h
  let saltBytes ← Base64.decode? .standard salt.toList
  if saltBytes.length < 8 then none
  some (hash ⟨variant, version, p.cost⟩ expected.length (Utf8.encode password) saltBytes p.data)

/-- Tries a password against the text of a hash. -/
def verify (password stored : String) : Except PasswordFault Unit :=
  match HashText.parse? stored with
  | none => .error .hashFormat
  | some h =>
    match digestFor? password h with
    | none => .error .verification
    | some d => if some d = h.digest then .ok () else .error .verification

/-- The parameters in the text of a new hash. -/
def Cost.parameters (c : Cost) : List (String × String) :=
  [("m", Decimal.ofNat c.memory), ("t", Decimal.ofNat c.passes), ("p", Decimal.ofNat c.lanes)]

/-- The text of a new hash, with a digest of 32 bytes. -/
def hashText (salt : Bytes) (password : String) : String :=
  HashText.text {
    algorithm := "argon2id"
    version := some currentVersion
    parameters := defaultCost.parameters
    salt := some (String.ofList (Base64.encode .standard salt))
    digest := some (hash ⟨.id, currentVersion, defaultCost⟩ 32 (Utf8.encode password) salt []) }

end Argon2

/-- The scheme of this service. -/
def PasswordScheme.argon2id : PasswordScheme where
  hash salt password := .ok (Argon2.hashText salt password)
  verify := Argon2.verify

end Accounts
