import Accounts.Digest.Blake2b

/-!
# Argon2

The memory-hard hash function for passwords: a table of blocks of 1024 bytes is filled so that each
block depends on the one before it and on one further back, in some number of passes.

* `Argon2.Row`, `Argon2.Block`: a block is eight rows of sixteen words;
* `Argon2.Variant`, `Argon2.Cost`: which blocks further back are taken, and how much work is done;
* `Argon2.hash`: the digest of a password.
-/

namespace Accounts.Argon2

/-- Sixteen words. -/
structure Row where
  w0 : UInt64
  w1 : UInt64
  w2 : UInt64
  w3 : UInt64
  w4 : UInt64
  w5 : UInt64
  w6 : UInt64
  w7 : UInt64
  w8 : UInt64
  w9 : UInt64
  w10 : UInt64
  w11 : UInt64
  w12 : UInt64
  w13 : UInt64
  w14 : UInt64
  w15 : UInt64

/-- Eight rows. -/
structure Block where
  r0 : Row
  r1 : Row
  r2 : Row
  r3 : Row
  r4 : Row
  r5 : Row
  r6 : Row
  r7 : Row

/-- A row of zeros. -/
def Row.zero : Row := ⟨0, 0, 0, 0, 0, 0, 0, 0, 0, 0, 0, 0, 0, 0, 0, 0⟩

/-- A block of zeros. -/
def Block.zero : Block := ⟨.zero, .zero, .zero, .zero, .zero, .zero, .zero, .zero⟩

instance : Inhabited Block := ⟨.zero⟩

/-- The words of a row. -/
def Row.words (r : Row) : List UInt64 :=
  [r.w0, r.w1, r.w2, r.w3, r.w4, r.w5, r.w6, r.w7, r.w8, r.w9, r.w10, r.w11,
    r.w12, r.w13, r.w14, r.w15]

/-- The row of sixteen words. -/
def Row.ofWords : List UInt64 → Row
  | [a, b, c, d, e, f, g, h, i, j, k, l, m, n, o, p] =>
    ⟨a, b, c, d, e, f, g, h, i, j, k, l, m, n, o, p⟩
  | _ => .zero

/-- The sum of rows, word by word without carry. -/
def Row.xor (x y : Row) : Row :=
  ⟨x.w0 ^^^ y.w0, x.w1 ^^^ y.w1, x.w2 ^^^ y.w2, x.w3 ^^^ y.w3, x.w4 ^^^ y.w4,
    x.w5 ^^^ y.w5, x.w6 ^^^ y.w6, x.w7 ^^^ y.w7, x.w8 ^^^ y.w8, x.w9 ^^^ y.w9,
    x.w10 ^^^ y.w10, x.w11 ^^^ y.w11, x.w12 ^^^ y.w12, x.w13 ^^^ y.w13, x.w14 ^^^ y.w14,
    x.w15 ^^^ y.w15⟩

/-- The sum of blocks. -/
def Block.xor (x y : Block) : Block :=
  ⟨x.r0.xor y.r0, x.r1.xor y.r1, x.r2.xor y.r2, x.r3.xor y.r3,
    x.r4.xor y.r4, x.r5.xor y.r5, x.r6.xor y.r6, x.r7.xor y.r7⟩

/-- Sum and double product of the lower halves. -/
@[inline] def mix (x y : UInt64) : UInt64 :=
  x + y + 2 * ((x &&& 0xFFFFFFFF) * (y &&& 0xFFFFFFFF))

/-- Four words mixed, and what is done with them. -/
@[inline] def quarter {α : Type} (a b c d : UInt64)
    (next : UInt64 → UInt64 → UInt64 → UInt64 → α) : α :=
  let a := mix a b
  let d := Blake2b.rotate (d ^^^ a) 32
  let c := mix c d
  let b := Blake2b.rotate (b ^^^ c) 24
  let a := mix a b
  let d := Blake2b.rotate (d ^^^ a) 16
  let c := mix c d
  let b := Blake2b.rotate (b ^^^ c) 63
  next a b c d

/-- A row mixed: columns, then diagonals of its four by four words. -/
def Row.permute (r : Row) : Row :=
  quarter r.w0 r.w4 r.w8 r.w12 fun aa ab ac ad =>
  quarter r.w1 r.w5 r.w9 r.w13 fun ba bb bc bd =>
  quarter r.w2 r.w6 r.w10 r.w14 fun ca cb cc cd =>
  quarter r.w3 r.w7 r.w11 r.w15 fun da db dc dd =>
  quarter aa bb cc dd fun ea eb ec ed =>
  quarter ba cb dc ad fun fa fb fc fd =>
  quarter ca db ac bd fun ga gb gc gd =>
  quarter da ab bc cd fun ha hb hc hd =>
  ⟨ea, fa, ga, ha, hb, eb, fb, gb, gc, hc, ec, fc, fd, gd, hd, ed⟩

/-- The eight columns of a block, each two words wide. -/
def Block.transpose (x : Block) : Block :=
  ⟨⟨x.r0.w0, x.r0.w1, x.r1.w0, x.r1.w1, x.r2.w0, x.r2.w1, x.r3.w0, x.r3.w1,
      x.r4.w0, x.r4.w1, x.r5.w0, x.r5.w1, x.r6.w0, x.r6.w1, x.r7.w0, x.r7.w1⟩,
    ⟨x.r0.w2, x.r0.w3, x.r1.w2, x.r1.w3, x.r2.w2, x.r2.w3, x.r3.w2, x.r3.w3,
      x.r4.w2, x.r4.w3, x.r5.w2, x.r5.w3, x.r6.w2, x.r6.w3, x.r7.w2, x.r7.w3⟩,
    ⟨x.r0.w4, x.r0.w5, x.r1.w4, x.r1.w5, x.r2.w4, x.r2.w5, x.r3.w4, x.r3.w5,
      x.r4.w4, x.r4.w5, x.r5.w4, x.r5.w5, x.r6.w4, x.r6.w5, x.r7.w4, x.r7.w5⟩,
    ⟨x.r0.w6, x.r0.w7, x.r1.w6, x.r1.w7, x.r2.w6, x.r2.w7, x.r3.w6, x.r3.w7,
      x.r4.w6, x.r4.w7, x.r5.w6, x.r5.w7, x.r6.w6, x.r6.w7, x.r7.w6, x.r7.w7⟩,
    ⟨x.r0.w8, x.r0.w9, x.r1.w8, x.r1.w9, x.r2.w8, x.r2.w9, x.r3.w8, x.r3.w9,
      x.r4.w8, x.r4.w9, x.r5.w8, x.r5.w9, x.r6.w8, x.r6.w9, x.r7.w8, x.r7.w9⟩,
    ⟨x.r0.w10, x.r0.w11, x.r1.w10, x.r1.w11, x.r2.w10, x.r2.w11, x.r3.w10, x.r3.w11,
      x.r4.w10, x.r4.w11, x.r5.w10, x.r5.w11, x.r6.w10, x.r6.w11, x.r7.w10, x.r7.w11⟩,
    ⟨x.r0.w12, x.r0.w13, x.r1.w12, x.r1.w13, x.r2.w12, x.r2.w13, x.r3.w12, x.r3.w13,
      x.r4.w12, x.r4.w13, x.r5.w12, x.r5.w13, x.r6.w12, x.r6.w13, x.r7.w12, x.r7.w13⟩,
    ⟨x.r0.w14, x.r0.w15, x.r1.w14, x.r1.w15, x.r2.w14, x.r2.w15, x.r3.w14, x.r3.w15,
      x.r4.w14, x.r4.w15, x.r5.w14, x.r5.w15, x.r6.w14, x.r6.w15, x.r7.w14, x.r7.w15⟩⟩

/-- Every row mixed. -/
def Block.permuteRows (x : Block) : Block :=
  ⟨x.r0.permute, x.r1.permute, x.r2.permute, x.r3.permute,
    x.r4.permute, x.r5.permute, x.r6.permute, x.r7.permute⟩

/-- The block that two blocks give: rows and then columns of their sum are mixed, and the sum is
added again. -/
def Block.compress (x y : Block) : Block :=
  let sum := x.xor y
  sum.permuteRows.transpose.permuteRows.transpose.xor sum

/-- The words of a block. -/
def Block.words (x : Block) : List UInt64 :=
  [x.r0, x.r1, x.r2, x.r3, x.r4, x.r5, x.r6, x.r7].flatMap Row.words

/-- The rows of a list of words. -/
def rowsOf : (count : Nat) → List UInt64 → List Row
  | 0, _ => []
  | count + 1, ws => Row.ofWords (ws.take 16) :: rowsOf count (ws.drop 16)

/-- The block of 128 words. -/
def Block.ofWords (ws : List UInt64) : Block :=
  match rowsOf 8 ws with
  | [a, b, c, d, e, f, g, h] => ⟨a, b, c, d, e, f, g, h⟩
  | _ => .zero

/-- The block of 1024 bytes. -/
def Block.ofBytes (bytes : Bytes) : Block := .ofWords (Blake2b.words 128 bytes)

/-- Which blocks further back are taken: by the data, by a counter, or by a counter in the first
half of the first pass. -/
inductive Variant
  | d
  | i
  | id
  deriving DecidableEq

/-- The number of a variant. -/
def Variant.number : Variant → Nat
  | .d => 0
  | .i => 1
  | .id => 2

/-- How much work is done: blocks of memory, passes over them, and lanes side by side. -/
structure Cost where
  memory : Nat
  passes : Nat
  lanes : Nat
  deriving DecidableEq

/-- What does not change while the memory is filled. -/
structure Setup where
  variant : Variant
  version : Nat
  cost : Cost

namespace Setup

variable (s : Setup)

/-- The blocks of a quarter of a lane. -/
def segment : Nat := s.cost.memory / (4 * s.cost.lanes)

/-- The blocks of a lane. -/
def lane : Nat := 4 * s.segment

/-- Whether the blocks further back are taken by a counter. -/
def byCounter (pass slice : Nat) : Bool :=
  match s.variant with
  | .d => false
  | .i => true
  | .id => pass == 0 && slice < 2

/-- The words that say which blocks further back are taken, for the next 128 blocks. -/
def addresses (pass lane slice counter : Nat) : Array UInt64 :=
  let input := Block.ofWords
    ([pass, lane, slice, 4 * s.segment * s.cost.lanes, s.cost.passes, s.variant.number,
      counter].map Nat.toUInt64 ++ List.replicate 121 0)
  (Block.zero.compress (Block.zero.compress input)).words.toArray

/-- How many blocks may be taken. -/
def areaSize (pass slice index : Nat) (sameLane : Bool) : Nat :=
  let finished := if pass = 0 then slice * s.segment else s.lane - s.segment
  if sameLane then finished + index - 1
  else if index = 0 then finished - 1
  else finished

/-- The place in its lane of the block that the number `j` picks: near ones more often. -/
def place (pass slice index : Nat) (sameLane : Bool) (j : Nat) : Nat :=
  let area := s.areaSize pass slice index sameLane
  let x := j * j / UInt32.size
  let back := area - 1 - area * x / UInt32.size
  let start := if pass = 0 ∨ slice = 3 then 0 else (slice + 1) * s.segment
  (start + back) % s.lane

/-- One block filled. -/
def fillOne (memory : Array Block) (pass slice lane index : Nat)
    (addresses : Array UInt64) : Array Block :=
  let here := slice * s.segment + index
  let previous := memory[lane * s.lane + (if here = 0 then s.lane - 1 else here - 1)]?.getD .zero
  let pick : UInt64 :=
    if s.byCounter pass slice then addresses[index % 128]?.getD 0 else previous.r0.w0
  let wanted := (pick >>> 32).toNat % s.cost.lanes
  let source := if pass = 0 ∧ slice = 0 then lane else wanted
  let spot := s.place pass slice index (source == lane) (pick &&& 0xFFFFFFFF).toNat
  let other := memory[source * s.lane + spot]?.getD .zero
  let next := previous.compress other
  memory.modify (lane * s.lane + here) fun old =>
    if pass = 0 ∨ s.version = 0x10 then next else old.xor next

/-- The blocks of a segment from `index` on; the addresses are renewed every 128 blocks. -/
def fillSegment (pass slice lane : Nat) (memory : Array Block) (index : Nat)
    (addresses : Array UInt64) : (left : Nat) → Array Block
  | 0 => memory
  | left + 1 =>
    let addresses :=
      if s.byCounter pass slice ∧ (index % 128 = 0 ∨ pass = 0 ∧ slice = 0 ∧ index = 2) then
        s.addresses pass lane slice (index / 128 + 1)
      else addresses
    let memory := s.fillOne memory pass slice lane index addresses
    fillSegment pass slice lane memory (index + 1) addresses left

/-- One pass: slice by slice, and in each slice lane by lane. The first two blocks of a lane are
there from the start. -/
def fillPass (memory : Array Block) (pass : Nat) : Array Block :=
  (List.range 4).foldl (fun memory slice =>
    (List.range s.cost.lanes).foldl (fun memory lane =>
      let first := if pass = 0 ∧ slice = 0 then 2 else 0
      s.fillSegment pass slice lane memory first #[] (s.segment - first)) memory) memory

/-- The memory with the first two blocks of each lane. -/
def start (seed : Bytes) : Array Block :=
  let memory := Array.replicate (s.lane * s.cost.lanes) Block.zero
  (List.range s.cost.lanes).foldl (fun memory lane =>
    (List.range 2).foldl (fun memory column =>
      let bytes := Blake2b.longHash 1024 (seed ++ Blake2b.le32 column ++ Blake2b.le32 lane)
      memory.setIfInBounds (lane * s.lane + column) (.ofBytes bytes)) memory) memory

/-- A byte string with its length before it. -/
def measured (bytes : Bytes) : Bytes := Blake2b.le32 bytes.length ++ bytes

/-- The digest from which the memory is filled. -/
def seed (size : Nat) (password salt data : Bytes) : Bytes :=
  let numbers := [s.cost.lanes, size, s.cost.memory, s.cost.passes, s.version, s.variant.number]
  Blake2b.hash 64 (numbers.flatMap Blake2b.le32 ++ measured password ++ measured salt ++
    measured [] ++ measured data)

end Setup

/-- The digest of a password with a salt and associated data, in `size` bytes. -/
def hash (s : Setup) (size : Nat) (password salt data : Bytes) : Bytes :=
  let memory := s.start (s.seed size password salt data)
  let memory := (List.range s.cost.passes).foldl s.fillPass memory
  let last := (List.range s.cost.lanes).foldl (fun sum lane =>
    sum.xor (memory[lane * s.lane + s.lane - 1]?.getD .zero)) Block.zero
  Blake2b.longHash size (last.words.flatMap (Blake2b.bytesOf 8))

end Accounts.Argon2
