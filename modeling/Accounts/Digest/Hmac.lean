import Accounts.Digest.Sha2

/-!
# Keyed digests

The construction HMAC over a hash function: two passes with the key mixed into two pads.

* `Hmac.Hash`: a hash function and the bytes of its block;
* `Hmac.mac`: the keyed digest of a message.
-/

namespace Accounts.Hmac

/-- A hash function and the bytes of its block. -/
structure Hash where
  blockBytes : Nat
  digest : Bytes → Bytes

/-- SHA-256. -/
def Hash.sha256 : Hash := ⟨64, Sha2.sha256⟩

/-- SHA-384. -/
def Hash.sha384 : Hash := ⟨128, Sha2.sha384⟩

/-- SHA-512. -/
def Hash.sha512 : Hash := ⟨128, Sha2.sha512⟩

variable (hash : Hash)

/-- The key as a whole block: a key that is too long is hashed, one that is too short gets zeros. -/
def blockKey (key : Bytes) : Bytes :=
  let short := if hash.blockBytes < key.length then hash.digest key else key
  short ++ List.replicate (hash.blockBytes - short.length) 0

/-- The keyed digest of a message. -/
def mac (key message : Bytes) : Bytes :=
  let k := blockKey hash key
  let inner := hash.digest (k.map (· ^^^ 0x36) ++ message)
  hash.digest (k.map (· ^^^ 0x5c) ++ inner)

end Accounts.Hmac
