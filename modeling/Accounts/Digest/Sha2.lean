import Accounts.Text.Utf8

/-!
# SHA-2

The hash functions of 32-bit and of 64-bit words. Both have one shape: the message is padded to
whole blocks, and each block is mixed into eight words by rounds over a schedule.

* `Sha2.Family`: what the word size decides;
* `Sha2.hash`: the digest of a message, in bytes, from eight starting words;
* `sha256`, `sha384`, `sha512`.
-/

namespace Accounts.Sha2

/-- What the word size decides: reading and writing words, the rotations of the rounds and of the
schedule, and one constant for each round. -/
structure Family (W : Type) where
  wordBytes : Nat
  ofNat : Nat → W
  toNat : W → Nat
  rotate : W → W → W
  shift : W → W → W
  big0 : W × W × W
  big1 : W × W × W
  small0 : W × W × W
  small1 : W × W × W
  constants : Array W

/-- The eight words that the blocks are mixed into. -/
structure Words (W : Type) where
  a : W
  b : W
  c : W
  d : W
  e : W
  f : W
  g : W
  h : W

variable {W : Type} [Add W] [XorOp W] [AndOp W] [Complement W] (fam : Family W)

namespace Family

/-- The xor of three rotations. -/
def spread (r : W × W × W) (x : W) : W :=
  fam.rotate x r.1 ^^^ fam.rotate x r.2.1 ^^^ fam.rotate x r.2.2

/-- The xor of two rotations and a shift. -/
def blend (r : W × W × W) (x : W) : W :=
  fam.rotate x r.1 ^^^ fam.rotate x r.2.1 ^^^ fam.shift x r.2.2

/-- One round with the schedule's word `w` and the constant `k`. -/
def round (s : Words W) (w k : W) : Words W :=
  let choice := (s.e &&& s.f) ^^^ (~~~s.e &&& s.g)
  let majority := (s.a &&& s.b) ^^^ (s.a &&& s.c) ^^^ (s.b &&& s.c)
  let t₁ := s.h + fam.spread fam.big1 s.e + choice + k + w
  let t₂ := fam.spread fam.big0 s.a + majority
  ⟨t₁ + t₂, s.a, s.b, s.c, s.d + t₁, s.e, s.f, s.g⟩

/-- The schedule's next word, from the sixteen before it. -/
def nextWord (w : Array W) : Option W := do
  let n := w.size
  let w₁₆ ← w[n - 16]?
  let w₁₅ ← w[n - 15]?
  let w₇ ← w[n - 7]?
  let w₂ ← w[n - 2]?
  some (w₁₆ + fam.blend fam.small0 w₁₅ + w₇ + fam.blend fam.small1 w₂)

/-- A block's sixteen words followed by `more` words of the schedule. -/
def schedule (w : Array W) : (more : Nat) → Array W
  | 0 => w
  | more + 1 =>
    match fam.nextWord w with
    | some x => schedule (w.push x) more
    | none => w

/-- The big-endian number that bytes write. -/
def natOfBytes (bytes : Bytes) : Nat := bytes.foldl (fun n b => n * 256 + b.toNat) 0

/-- The lowest `count` bytes of a number, highest first. -/
def bytesOfNat (count n : Nat) : Bytes :=
  (List.range count).map fun i => (n / Nat.pow 256 (count - 1 - i)).toUInt8

/-- The first `count` words of a byte string. -/
def wordsOf : (count : Nat) → Bytes → List W
  | 0, _ => []
  | count + 1, bytes =>
    fam.ofNat (natOfBytes (bytes.take fam.wordBytes)) :: wordsOf count (bytes.drop fam.wordBytes)

/-- A block mixed into the eight words. -/
def compress (s : Words W) (block : Bytes) : Words W :=
  let rounds := fam.constants.size
  let w := fam.schedule (fam.wordsOf 16 block).toArray (rounds - 16)
  let t := (w.zip fam.constants).foldl (fun t (x, k) => fam.round t x k) s
  ⟨s.a + t.a, s.b + t.b, s.c + t.c, s.d + t.d, s.e + t.e, s.f + t.f, s.g + t.g, s.h + t.h⟩

/-- The bytes of a block. -/
def blockBytes : Nat := 16 * fam.wordBytes

/-- A message with a set bit, zeros and its length in bits, up to whole blocks. -/
def pad (message : Bytes) : Bytes :=
  let lengthBytes := 2 * fam.wordBytes
  let used := (message.length + 1 + lengthBytes) % fam.blockBytes
  let zeros := (fam.blockBytes - used) % fam.blockBytes
  message ++ 0x80 :: List.replicate zeros 0 ++ bytesOfNat lengthBytes (8 * message.length)

/-- The blocks of a padded message mixed in, one after the other. -/
def absorb (s : Words W) : (blocks : Nat) → Bytes → Words W
  | 0, _ => s
  | blocks + 1, bytes =>
    absorb (fam.compress s (bytes.take fam.blockBytes)) blocks (bytes.drop fam.blockBytes)

end Family

/-- The eight words as bytes. -/
def Words.bytes (s : Words W) : Bytes :=
  [s.a, s.b, s.c, s.d, s.e, s.f, s.g, s.h].flatMap fun x =>
    Family.bytesOfNat fam.wordBytes (fam.toNat x)

/-- The digest of a message from eight starting words. -/
def hash (start : Words W) (message : Bytes) : Bytes :=
  let padded := fam.pad message
  (fam.absorb start (padded.length / fam.blockBytes) padded).bytes fam

/-- The family of 32-bit words. -/
def words32 : Family UInt32 where
  wordBytes := 4
  ofNat := Nat.toUInt32
  toNat := UInt32.toNat
  rotate x n := x >>> n ||| x <<< (32 - n)
  shift x n := x >>> n
  big0 := (2, 13, 22)
  big1 := (6, 11, 25)
  small0 := (7, 18, 3)
  small1 := (17, 19, 10)
  constants := #[
    0x428a2f98, 0x71374491, 0xb5c0fbcf, 0xe9b5dba5, 0x3956c25b, 0x59f111f1, 0x923f82a4, 0xab1c5ed5,
    0xd807aa98, 0x12835b01, 0x243185be, 0x550c7dc3, 0x72be5d74, 0x80deb1fe, 0x9bdc06a7, 0xc19bf174,
    0xe49b69c1, 0xefbe4786, 0x0fc19dc6, 0x240ca1cc, 0x2de92c6f, 0x4a7484aa, 0x5cb0a9dc, 0x76f988da,
    0x983e5152, 0xa831c66d, 0xb00327c8, 0xbf597fc7, 0xc6e00bf3, 0xd5a79147, 0x06ca6351, 0x14292967,
    0x27b70a85, 0x2e1b2138, 0x4d2c6dfc, 0x53380d13, 0x650a7354, 0x766a0abb, 0x81c2c92e, 0x92722c85,
    0xa2bfe8a1, 0xa81a664b, 0xc24b8b70, 0xc76c51a3, 0xd192e819, 0xd6990624, 0xf40e3585, 0x106aa070,
    0x19a4c116, 0x1e376c08, 0x2748774c, 0x34b0bcb5, 0x391c0cb3, 0x4ed8aa4a, 0x5b9cca4f, 0x682e6ff3,
    0x748f82ee, 0x78a5636f, 0x84c87814, 0x8cc70208, 0x90befffa, 0xa4506ceb, 0xbef9a3f7, 0xc67178f2]

/-- The family of 64-bit words. -/
def words64 : Family UInt64 where
  wordBytes := 8
  ofNat := Nat.toUInt64
  toNat := UInt64.toNat
  rotate x n := x >>> n ||| x <<< (64 - n)
  shift x n := x >>> n
  big0 := (28, 34, 39)
  big1 := (14, 18, 41)
  small0 := (1, 8, 7)
  small1 := (19, 61, 6)
  constants := #[
    0x428a2f98d728ae22, 0x7137449123ef65cd, 0xb5c0fbcfec4d3b2f, 0xe9b5dba58189dbbc,
    0x3956c25bf348b538, 0x59f111f1b605d019, 0x923f82a4af194f9b, 0xab1c5ed5da6d8118,
    0xd807aa98a3030242, 0x12835b0145706fbe, 0x243185be4ee4b28c, 0x550c7dc3d5ffb4e2,
    0x72be5d74f27b896f, 0x80deb1fe3b1696b1, 0x9bdc06a725c71235, 0xc19bf174cf692694,
    0xe49b69c19ef14ad2, 0xefbe4786384f25e3, 0x0fc19dc68b8cd5b5, 0x240ca1cc77ac9c65,
    0x2de92c6f592b0275, 0x4a7484aa6ea6e483, 0x5cb0a9dcbd41fbd4, 0x76f988da831153b5,
    0x983e5152ee66dfab, 0xa831c66d2db43210, 0xb00327c898fb213f, 0xbf597fc7beef0ee4,
    0xc6e00bf33da88fc2, 0xd5a79147930aa725, 0x06ca6351e003826f, 0x142929670a0e6e70,
    0x27b70a8546d22ffc, 0x2e1b21385c26c926, 0x4d2c6dfc5ac42aed, 0x53380d139d95b3df,
    0x650a73548baf63de, 0x766a0abb3c77b2a8, 0x81c2c92e47edaee6, 0x92722c851482353b,
    0xa2bfe8a14cf10364, 0xa81a664bbc423001, 0xc24b8b70d0f89791, 0xc76c51a30654be30,
    0xd192e819d6ef5218, 0xd69906245565a910, 0xf40e35855771202a, 0x106aa07032bbd1b8,
    0x19a4c116b8d2d0c8, 0x1e376c085141ab53, 0x2748774cdf8eeb99, 0x34b0bcb5e19b48a8,
    0x391c0cb3c5c95a63, 0x4ed8aa4ae3418acb, 0x5b9cca4f7763e373, 0x682e6ff3d6b2b8a3,
    0x748f82ee5defb2fc, 0x78a5636f43172f60, 0x84c87814a1f0ab72, 0x8cc702081a6439ec,
    0x90befffa23631e28, 0xa4506cebde82bde9, 0xbef9a3f7b2c67915, 0xc67178f2e372532b,
    0xca273eceea26619c, 0xd186b8c721c0c207, 0xeada7dd6cde0eb1e, 0xf57d4f7fee6ed178,
    0x06f067aa72176fba, 0x0a637dc5a2c898a6, 0x113f9804bef90dae, 0x1b710b35131c471b,
    0x28db77f523047d84, 0x32caab7b40c72493, 0x3c9ebe0a15c9bebc, 0x431d67c49c100d4c,
    0x4cc5d4becb3e42b6, 0x597f299cfc657e2a, 0x5fcb6fab3ad6faec, 0x6c44198c4a475817]

/-- SHA-256. -/
def sha256 (message : Bytes) : Bytes :=
  hash words32 ⟨0x6a09e667, 0xbb67ae85, 0x3c6ef372, 0xa54ff53a,
    0x510e527f, 0x9b05688c, 0x1f83d9ab, 0x5be0cd19⟩ message

/-- SHA-384: the first 48 bytes of the digest from starting words of its own. -/
def sha384 (message : Bytes) : Bytes :=
  (hash words64 ⟨0xcbbb9d5dc1059ed8, 0x629a292a367cd507, 0x9159015a3070dd17, 0x152fecd8f70e5939,
    0x67332667ffc00b31, 0x8eb44a8768581511, 0xdb0c2e0d64f98fa7, 0x47b5481dbefa4fa4⟩ message).take 48

/-- SHA-512. -/
def sha512 (message : Bytes) : Bytes :=
  hash words64 ⟨0x6a09e667f3bcc908, 0xbb67ae8584caa73b, 0x3c6ef372fe94f82b, 0xa54ff53a5f1d36f1,
    0x510e527fade682d1, 0x9b05688c2b3e6c1f, 0x1f83d9abfb41bd6b, 0x5be0cd19137e2179⟩ message

end Accounts.Sha2
