import Accounts.Text.Utf8

/-!
# Base64 without padding

Six bits a character, in the standard alphabet and in the one for URLs. A text is read only if it is
exactly what writing produces: no padding, no other characters, no bits set beyond the last byte.

* `Base64.Alphabet`: which characters stand for 62 and 63;
* `Base64.encode`, `Base64.decode?`: writing and reading.
-/

namespace Accounts.Base64

/-- The two alphabets differ in the characters for 62 and 63. -/
inductive Alphabet
  | standard
  | url
  deriving DecidableEq

namespace Alphabet

/-- The character for 62. -/
def char62 : Alphabet → Char
  | .standard => '+'
  | .url => '-'

/-- The character for 63. -/
def char63 : Alphabet → Char
  | .standard => '/'
  | .url => '_'

/-- The character for six bits. -/
def char (a : Alphabet) (n : Nat) : Char :=
  if n < 26 then Char.ofNat (65 + n)
  else if n < 52 then Char.ofNat (71 + n)
  else if n < 62 then Char.ofNat (n - 4)
  else if n = 62 then a.char62
  else a.char63

/-- The six bits of a character. -/
def value? (a : Alphabet) (c : Char) : Option Nat :=
  if 'A' ≤ c ∧ c ≤ 'Z' then some (c.toNat - 65)
  else if 'a' ≤ c ∧ c ≤ 'z' then some (c.toNat - 71)
  else if '0' ≤ c ∧ c ≤ '9' then some (c.toNat + 4)
  else if c = a.char62 then some 62
  else if c = a.char63 then some 63
  else none

end Alphabet

variable (a : Alphabet)

/-- The characters of a byte string. -/
def encode : Bytes → List Char
  | [] => []
  | [x] => [a.char (x.toNat / 4), a.char (x.toNat % 4 * 16)]
  | [x, y] =>
    [a.char (x.toNat / 4), a.char (x.toNat % 4 * 16 + y.toNat / 16), a.char (y.toNat % 16 * 4)]
  | x :: y :: z :: rest =>
    a.char (x.toNat / 4) :: a.char (x.toNat % 4 * 16 + y.toNat / 16) ::
      a.char (y.toNat % 16 * 4 + z.toNat / 64) :: a.char (z.toNat % 64) :: encode rest

/-- The byte string whose characters these are. -/
def decode? : List Char → Option Bytes
  | [] => some []
  | [_] => none
  | [p, q] => do
    let p ← a.value? p
    let q ← a.value? q
    if q % 16 = 0 then some [(p * 4 + q / 16).toUInt8] else none
  | [p, q, r] => do
    let p ← a.value? p
    let q ← a.value? q
    let r ← a.value? r
    if r % 4 = 0 then
      some [(p * 4 + q / 16).toUInt8, (q % 16 * 16 + r / 4).toUInt8]
    else none
  | p :: q :: r :: s :: rest => do
    let p ← a.value? p
    let q ← a.value? q
    let r ← a.value? r
    let s ← a.value? s
    let more ← decode? rest
    some ((p * 4 + q / 16).toUInt8 :: (q % 16 * 16 + r / 4).toUInt8 :: (r % 4 * 64 + s).toUInt8 ::
      more)

end Accounts.Base64
