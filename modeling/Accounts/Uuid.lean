import Accounts.Text.Pieces

/-!
# Identifiers of 128 bits

An identifier is 32 digits of base sixteen. It is written in five groups with hyphens, in lower
case; it is read in four forms, in either case: with hyphens, without, with hyphens in braces, and
with hyphens after the name of the scheme.

* `Uuid`: the identifier;
* `Uuid.text`: its one written form;
* `Uuid.parse?`: reading;
* `Uuid.random`: an identifier of version 4 from random digits.
-/

namespace Accounts

/-- An identifier of 128 bits. -/
structure Uuid where
  digits : List (Fin 16)
  length_eq : digits.length = 32
  deriving DecidableEq

namespace Uuid

/-- The character of a digit. -/
def digitChar (d : Fin 16) : Char :=
  if d.val < 10 then Char.ofNat (48 + d.val) else Char.ofNat (87 + d.val)

/-- The digit of a character, in either case. -/
def digit? (c : Char) : Option (Fin 16) :=
  if '0' ≤ c ∧ c ≤ '9' then some (Fin.ofNat 16 (c.toNat - 48))
  else if 'a' ≤ c ∧ c ≤ 'f' then some (Fin.ofNat 16 (c.toNat - 87))
  else if 'A' ≤ c ∧ c ≤ 'F' then some (Fin.ofNat 16 (c.toNat - 55))
  else none

/-- The identifier with given digits, if there are 32. -/
def ofDigits? (ds : List (Fin 16)) : Option Uuid :=
  if h : ds.length = 32 then some ⟨ds, h⟩ else none

/-- The sizes of the five groups. -/
def groups : List Nat := [8, 4, 4, 4, 12]

/-- Digits cut into groups of given sizes with hyphens between them. -/
def hyphenated : (sizes : List Nat) → List Char → List Char
  | [], _ => []
  | [n], cs => cs.take n
  | n :: sizes, cs => cs.take n ++ '-' :: hyphenated sizes (cs.drop n)

/-- The characters of the written form. -/
def chars (u : Uuid) : List Char := hyphenated groups (u.digits.map digitChar)

/-- The written form. -/
def text (u : Uuid) : String := String.ofList u.chars

/-- Reads the form without hyphens. -/
def parseSimple? (cs : List Char) : Option Uuid := do ofDigits? (← cs.mapM digit?)

/-- Reads the form with hyphens. -/
def parseHyphenated? (cs : List Char) : Option Uuid :=
  let gs := Text.pieces '-' cs
  if gs.map List.length = groups then parseSimple? gs.flatten else none

/-- The two spellings of the scheme's name. -/
def schemes : List (List Char) :=
  [['u', 'r', 'n', ':', 'u', 'u', 'i', 'd', ':'], ['U', 'R', 'N', ':', 'U', 'U', 'I', 'D', ':']]

/-- Reads the form with hyphens between braces. -/
def parseBraced? : List Char → Option Uuid
  | '\x7b' :: cs => if cs.getLast? = some '\x7d' then parseHyphenated? cs.dropLast else none
  | _ => none

/-- Reads the form with hyphens after the name of the scheme. -/
def parseUrn? (cs : List Char) : Option Uuid :=
  match schemes.findSome? (Text.dropStart? · cs) with
  | some rest => parseHyphenated? rest
  | none => none

/-- Reads any of the four forms. -/
def parse? (s : String) : Option Uuid :=
  let cs := s.toList
  (parseSimple? cs).or ((parseHyphenated? cs).or ((parseBraced? cs).or (parseUrn? cs)))

/-- The lowest 32 digits of a number, highest first. -/
def digitsOf (n : Nat) : List (Fin 16) :=
  (List.range 32).map fun i => Fin.ofNat 16 (n / Nat.pow 16 (31 - i))

/-- The identifier of version 4 from 128 random bits: the thirteenth digit is the version and the
seventeenth starts with the bits of the variant. -/
def random (n : Nat) : Uuid where
  digits := (digitsOf n).mapIdx fun i d =>
    if i = 12 then 4 else if i = 16 then Fin.ofNat 16 (8 + d.val % 4) else d
  length_eq := by simp [digitsOf]

/-- The version digit and the variant of version 4. -/
def isRandom (u : Uuid) : Bool :=
  u.digits[12]? == some 4 && (u.digits[16]?).any fun d => d.val / 4 == 2

end Uuid

end Accounts
