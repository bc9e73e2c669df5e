import Accounts.Text.CombiningClass
import Accounts.Text.Composites

/-!
# Composition

Texts that look the same and mean the same can differ in their characters. The composed form of a
text has a composite wherever there is one, and its marks in the order of their classes.

* `decomposed`: the parts of a character;
* `settled`: marks in order;
* `composed`: the composed form.
-/

namespace Accounts.Text

/-! ## Syllables of Hangul -/

/-- The parts of a syllable: its first consonant, its vowel, and its last consonant if it has one.
-/
def syllableParts? (c : Char) : Option (List Char) :=
  if 0xAC00 ≤ c.toNat ∧ c.toNat < 0xAC00 + 19 * 21 * 28 then
    let n := c.toNat - 0xAC00
    let start := [Char.ofNat (0x1100 + n / (21 * 28)), Char.ofNat (0x1161 + n % (21 * 28) / 28)]
    some (if n % 28 = 0 then start else start ++ [Char.ofNat (0x11A7 + n % 28)])
  else none

/-- The syllable of a consonant and a vowel, or of a syllable without a last consonant and one. -/
def syllable? (a b : Char) : Option Char :=
  if 0x1100 ≤ a.toNat ∧ a.toNat < 0x1100 + 19 ∧ 0x1161 ≤ b.toNat ∧ b.toNat < 0x1161 + 21 then
    some (Char.ofNat (0xAC00 + ((a.toNat - 0x1100) * 21 + (b.toNat - 0x1161)) * 28))
  else if 0xAC00 ≤ a.toNat ∧ a.toNat < 0xAC00 + 19 * 21 * 28 ∧ (a.toNat - 0xAC00) % 28 = 0 ∧
      0x11A7 < b.toNat ∧ b.toNat < 0x11A7 + 28 then
    some (Char.ofNat (a.toNat + (b.toNat - 0x11A7)))
  else none

/-! ## Parts -/

/-- The parts of a character, taken apart `depth` times. -/
def decomposedTo (depth : Nat) (c : Char) : List Char :=
  match depth, syllableParts? c with
  | _, some parts => parts
  | 0, none => [c]
  | depth + 1, none =>
    match pair? c with
    | some (a, b) => decomposedTo depth a ++ [b]
    | none => [c]

/-- The parts of a character. No composite has more than four. -/
def decomposed (c : Char) : List Char := decomposedTo 3 c

/-- Puts a character before a list in which marks are in order, behind the marks of lower classes.
-/
def settle (c : Char) : List Char → List Char
  | [] => [c]
  | d :: ds =>
    if 0 < combiningClass d ∧ combiningClass d < combiningClass c then d :: settle c ds
    else c :: d :: ds

/-- The characters of a list with the marks in the order of their classes. -/
def settled (cs : List Char) : List Char := cs.foldr settle []

/-! ## Composites -/

/-- The composite of two characters. -/
def joined? (a b : Char) : Option Char := syllable? a b <|> composite? a b

/-- Composes a list behind a character. The marks `kept`, the last first, did not join it; a mark
joins it past them only if its class is above theirs. -/
def composeFrom (a : Char) (kept : List Char) : List Char → List Char
  | [] => a :: kept.reverse
  | b :: bs =>
    let free := kept.all (combiningClass · < combiningClass b)
    match if free then joined? a b else none with
    | some c => composeFrom c kept bs
    | none =>
      if combiningClass b = 0 then a :: kept.reverse ++ composeFrom b [] bs
      else composeFrom a (b :: kept) bs

/-- The composed form of a text. -/
def composed (cs : List Char) : List Char :=
  match settled (cs.flatMap decomposed) with
  | [] => []
  | a :: bs => composeFrom a [] bs

end Accounts.Text
