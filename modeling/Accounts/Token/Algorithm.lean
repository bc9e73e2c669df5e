import Accounts.Base64
import Accounts.Digest.Hmac

/-!
# Signing algorithms

The three keyed digests that a token may be signed with.

* `Algorithm`: the algorithms, by name;
* `Algorithm.sign`: the signature of a message, in base64 for URLs.
-/

namespace Accounts

/-- A keyed digest for signatures. -/
inductive Algorithm
  | hs256
  | hs384
  | hs512
  deriving DecidableEq

namespace Algorithm

/-- The name in a token's header. -/
def name : Algorithm → String
  | .hs256 => "HS256"
  | .hs384 => "HS384"
  | .hs512 => "HS512"

/-- The algorithm with a name. -/
def ofName? (s : String) : Option Algorithm :=
  if s = "HS256" then some .hs256
  else if s = "HS384" then some .hs384
  else if s = "HS512" then some .hs512
  else none

/-- The hash function of an algorithm. -/
def hash : Algorithm → Hmac.Hash
  | .hs256 => .sha256
  | .hs384 => .sha384
  | .hs512 => .sha512

/-- The signature of a message. -/
def sign (a : Algorithm) (key message : Bytes) : List Char :=
  Base64.encode .url (Hmac.mac a.hash key message)

theorem ofName?_name (a : Algorithm) : ofName? a.name = some a := by cases a <;> rfl

end Algorithm

end Accounts
