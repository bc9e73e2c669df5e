import Accounts.Text.Utf8

/-!
# BLAKE2b

The hash function of 64-bit words with a digest of one to 64 bytes, and its extension to digests of
any length.

* `Blake2b.hash`: the digest of a message;
* `Blake2b.longHash`: a digest of any length, made of halves of a chain of digests.
-/

namespace Accounts.Blake2b

/-- The eight words of the state. -/
def initial : Array UInt64 := #[
  0x6a09e667f3bcc908, 0xbb67ae8584caa73b, 0x3c6ef372fe94f82b, 0xa54ff53a5f1d36f1,
  0x510e527fade682d1, 0x9b05688c2b3e6c1f, 0x1f83d9abfb41bd6b, 0x5be0cd19137e2179]

/-- The orders in which the rounds take the words of a block. -/
def orders : List (List Nat) := [
  [0, 1, 2, 3, 4, 5, 6, 7, 8, 9, 10, 11, 12, 13, 14, 15],
  [14, 10, 4, 8, 9, 15, 13, 6, 1, 12, 0, 2, 11, 7, 5, 3],
  [11, 8, 12, 0, 5, 2, 15, 13, 10, 14, 3, 6, 7, 1, 9, 4],
  [7, 9, 3, 1, 13, 12, 11, 14, 2, 6, 5, 10, 4, 0, 15, 8],
  [9, 0, 5, 7, 2, 4, 10, 15, 14, 1, 11, 12, 6, 8, 3, 13],
  [2, 12, 6, 10, 0, 11, 8, 3, 4, 13, 7, 5, 15, 14, 1, 9],
  [12, 5, 1, 15, 14, 13, 4, 10, 0, 7, 6, 3, 9, 2, 8, 11],
  [13, 11, 7, 14, 12, 1, 3, 9, 5, 0, 15, 4, 8, 6, 2, 10],
  [6, 15, 14, 9, 11, 3, 0, 8, 12, 2, 13, 7, 1, 4, 10, 5],
  [10, 2, 8, 4, 7, 6, 1, 5, 15, 11, 9, 14, 3, 12, 13, 0],
  [0, 1, 2, 3, 4, 5, 6, 7, 8, 9, 10, 11, 12, 13, 14, 15],
  [14, 10, 4, 8, 9, 15, 13, 6, 1, 12, 0, 2, 11, 7, 5, 3]]

/-- The places of the state that the steps of a round mix: columns, then diagonals. -/
def places : List (Nat × Nat × Nat × Nat) := [
  (0, 4, 8, 12), (1, 5, 9, 13), (2, 6, 10, 14), (3, 7, 11, 15),
  (0, 5, 10, 15), (1, 6, 11, 12), (2, 7, 8, 13), (3, 4, 9, 14)]

/-- Rotation to the right. -/
@[inline] def rotate (x n : UInt64) : UInt64 := x >>> n ||| x <<< (64 - n)

/-- One step: four places of the state are mixed with two words of the block. -/
def step (v : Array UInt64) (place : Nat × Nat × Nat × Nat) (x y : UInt64) : Array UInt64 :=
  let (i, j, k, l) := place
  let a := v[i]?.getD 0
  let b := v[j]?.getD 0
  let c := v[k]?.getD 0
  let d := v[l]?.getD 0
  let a := a + b + x
  let d := rotate (d ^^^ a) 32
  let c := c + d
  let b := rotate (b ^^^ c) 24
  let a := a + b + y
  let d := rotate (d ^^^ a) 16
  let c := c + d
  let b := rotate (b ^^^ c) 63
  (((v.setIfInBounds i a).setIfInBounds j b).setIfInBounds k c).setIfInBounds l d

/-- The steps of a round, with two words of the block for each. -/
def round (block : Array UInt64) (v : Array UInt64) : List (Nat × Nat × Nat × Nat) → List Nat →
    Array UInt64
  | place :: rest, x :: y :: order =>
    round block (step v place (block[x]?.getD 0) (block[y]?.getD 0)) rest order
  | _, _ => v

/-- The little-endian number of bytes. -/
def word (bytes : Bytes) : UInt64 :=
  bytes.foldr (fun b n => n <<< 8 ||| b.toUInt64) 0

/-- The bytes of a number, lowest first. -/
def bytesOf (count : Nat) (x : UInt64) : Bytes :=
  (List.range count).map fun i => (x >>> (8 * i).toUInt64).toUInt8

/-- The first `count` words of a byte string, as if zeros followed it. -/
def words : (count : Nat) → Bytes → List UInt64
  | 0, _ => []
  | count + 1, bytes => word (bytes.take 8) :: words count (bytes.drop 8)

/-- A block mixed into the state; `total` counts the bytes up to its end. -/
def compress (h : Array UInt64) (bytes : Bytes) (total : Nat) (last : Bool) : Array UInt64 :=
  let block := (words 16 bytes).toArray
  let v := h ++ initial
  let v := v.modify 12 (· ^^^ total.toUInt64)
  let v := v.modify 13 (· ^^^ (total / UInt64.size).toUInt64)
  let v := if last then v.modify 14 (~~~ ·) else v
  let v := orders.foldl (fun v order => round block v places order) v
  h.mapIdx fun i x => x ^^^ v[i]?.getD 0 ^^^ v[i + 8]?.getD 0

/-- All blocks mixed in; the budget counts blocks. -/
def absorb (h : Array UInt64) (done : Nat) : (budget : Nat) → Bytes → Array UInt64
  | 0, _ => h
  | budget + 1, bytes =>
    if bytes.length ≤ 128 then compress h bytes (done + bytes.length) true
    else
      absorb (compress h (bytes.take 128) (done + 128) false) (done + 128) budget (bytes.drop 128)

/-- The digest of a message with `size` bytes, at most 64. -/
def hash (size : Nat) (message : Bytes) : Bytes :=
  let h := initial.modify 0 (· ^^^ (0x01010000 ^^^ size.toUInt64))
  ((absorb h 0 (message.length / 128 + 1) message).toList.flatMap (bytesOf 8)).take size

/-- A number in four bytes, lowest first. -/
def le32 (n : Nat) : Bytes := bytesOf 4 n.toUInt64

/-- The halves of a chain of digests until at most 64 bytes are left, which the last digest gives.
-/
def chain (previous : Bytes) : (budget left : Nat) → Bytes
  | 0, _ => []
  | budget + 1, left =>
    if left ≤ 64 then hash left previous
    else
      let next := hash 64 previous
      next.take 32 ++ chain next budget (left - 32)

/-- The digest of a message with any number of bytes. -/
def longHash (size : Nat) (message : Bytes) : Bytes :=
  let input := le32 size ++ message
  if size ≤ 64 then hash size input
  else
    let first := hash 64 input
    first.take 32 ++ chain first size (size - 32)

end Accounts.Blake2b
