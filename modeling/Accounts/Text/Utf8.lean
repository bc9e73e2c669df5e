/-!
# UTF-8

Text as bytes and bytes as text. Bytes that arrive from outside may be no text at all, so reading
has two forms: all or nothing, and symbol by symbol.

* `encode`: the bytes of a text;
* `symbols`: the characters of a byte string, with `none` for each byte that is part of none;
* `decode?`: the text, if every byte is part of a character.
-/

namespace Accounts

/-- A byte string. -/
abbrev Bytes : Type := List UInt8

namespace Utf8

/-- A character of a byte string, or `none` for a byte that is part of no character. -/
abbrev Symbol : Type := Option Char

/-- The bytes of a text. -/
def encode (s : String) : Bytes := s.toList.flatMap String.utf8EncodeChar

/-- A continuation byte carries six bits. -/
def tail? (b : UInt8) : Option Nat :=
  if 0x80 ≤ b && b < 0xC0 then some (b.toNat - 0x80) else none

/-- The character with number `n`, if the number is at least `least` and is a character's. -/
def charFrom? (least n : Nat) : Option Char :=
  if h : n.isValidChar ∧ least ≤ n then some (Char.ofNatAux n h.1) else none

/-- The character that starts with byte `b`, and how many of the bytes after `b` it takes. A longer
form than a character needs is refused. -/
def scalar? (b : UInt8) (rest : Bytes) : Option (Char × Nat) :=
  if b < 0x80 then
    (charFrom? 0 b.toNat).map (·, 0)
  else if b < 0xE0 then
    match rest with
    | b₁ :: _ => do
      let x ← tail? b₁
      if b < 0xC0 then none
      (charFrom? 0x80 ((b.toNat - 0xC0) * 64 + x)).map (·, 1)
    | _ => none
  else if b < 0xF0 then
    match rest with
    | b₁ :: b₂ :: _ => do
      let x ← tail? b₁
      let y ← tail? b₂
      (charFrom? 0x800 (((b.toNat - 0xE0) * 64 + x) * 64 + y)).map (·, 2)
    | _ => none
  else if b < 0xF8 then
    match rest with
    | b₁ :: b₂ :: b₃ :: _ => do
      let x ← tail? b₁
      let y ← tail? b₂
      let z ← tail? b₃
      (charFrom? 0x10000 ((((b.toNat - 0xF0) * 64 + x) * 64 + y) * 64 + z)).map (·, 3)
    | _ => none
  else none

/-- The symbols of a byte string in reverse, before `acc`, once `skip` bytes are passed over. -/
def symbolsRev : Nat → List Symbol → Bytes → List Symbol
  | _, acc, [] => acc
  | skip + 1, acc, _ :: rest => symbolsRev skip acc rest
  | 0, acc, b :: rest =>
    match scalar? b rest with
    | some (c, more) => symbolsRev more (some c :: acc) rest
    | none => symbolsRev 0 (none :: acc) rest

/-- The symbols of a byte string. -/
def symbols (bytes : Bytes) : List Symbol := (symbolsRev 0 [] bytes).reverse

/-- All the characters of a list of symbols, in reverse before `acc`. -/
def charsRev : List Char → List Symbol → Option (List Char)
  | acc, [] => some acc
  | acc, some c :: rest => charsRev (c :: acc) rest
  | _, none :: _ => none

/-- The text of a byte string in which every byte is part of a character. -/
def decode? (bytes : Bytes) : Option String :=
  (charsRev [] (symbols bytes)).map fun cs => String.ofList cs.reverse

end Utf8

end Accounts
