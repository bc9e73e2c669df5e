import Accounts.Text.Utf8
import Accounts.Decimal.Natural

/-!
# Numbers in JSON text

A numeral as it is written, and the number that it stands for: an integer of 64 bits if it has
neither point nor exponent and fits, otherwise a float.

* `Numeral.scan?`: the numeral at the start of a text;
* `Numeral.number?`: its number, or `none` when it is too large for a float.
-/

namespace Accounts.Json

open Utf8 (Symbol)

/-- A numeral as written. -/
structure Numeral where
  negative : Bool
  whole : List Char
  fraction : List Char
  exponent : Option (Bool × List Char)

/-- What a numeral stands for. -/
inductive Number
  | integer (n : Int)
  | decimal (x : Float)

/-- The digits at the start of a text, and the rest. -/
def scanDigits (s : List Symbol) : List Char × List Symbol :=
  let isDigit : Symbol → Bool := fun x => x.any Decimal.isDigit
  ((s.takeWhile isDigit).filterMap id, s.dropWhile isDigit)

/-- A fraction at the start of a text: a point and one or more digits, or nothing. -/
def scanFraction? : List Symbol → Option (List Char × List Symbol)
  | some '.' :: s =>
    match scanDigits s with
    | ([], _) => none
    | (ds, rest) => some (ds, rest)
  | s => some ([], s)

/-- The sign of an exponent; true for a minus. -/
def scanSign : List Symbol → Bool × List Symbol
  | some '-' :: s => (true, s)
  | some '+' :: s => (false, s)
  | s => (false, s)

/-- The digits of an exponent, at least one. -/
def scanPower? (s : List Symbol) : Option (Option (Bool × List Char) × List Symbol) :=
  let (negative, s) := scanSign s
  match scanDigits s with
  | ([], _) => none
  | (ds, rest) => some (some (negative, ds), rest)

/-- An exponent at the start of a text, or nothing. -/
def scanExponent? : List Symbol → Option (Option (Bool × List Char) × List Symbol)
  | some 'e' :: s => scanPower? s
  | some 'E' :: s => scanPower? s
  | s => some (none, s)

namespace Numeral

/-- The numeral after its sign. A zero at the start stands alone before the point. -/
def scanUnsigned? (negative : Bool) (s : List Symbol) : Option (Numeral × List Symbol) := do
  let (whole, s) ← match scanDigits s with
    | ([], _) => none
    | ('0' :: _ :: _, _) => none
    | (ds, rest) => some (ds, rest)
  let (fraction, s) ← scanFraction? s
  let (exponent, s) ← scanExponent? s
  some (⟨negative, whole, fraction, exponent⟩, s)

/-- The numeral at the start of a text. -/
def scan? : List Symbol → Option (Numeral × List Symbol)
  | some '-' :: s => scanUnsigned? true s
  | s => scanUnsigned? false s

/-- Digits are added to a significand of 64 bits as long as it can hold them; the count of those
that it could not hold is returned with it. -/
def absorb (significand : Nat) : List Char → Nat × Nat
  | [] => (significand, 0)
  | c :: cs =>
    let next := 10 * significand + (c.toNat - 48)
    if next < UInt64.size then absorb next cs else (significand, cs.length + 1)

/-- The significand, and the exponent of ten that goes with it before the written exponent. -/
def significand (n : Numeral) : Nat × Int :=
  let (s, dropped) := absorb 0 n.whole
  let (s', lost) := absorb s n.fraction
  (s', (dropped : Int) - ((n.fraction.length - lost : Nat) : Int))

/-- The written exponent between the bounds of 32 bits, or `none` when it is beyond them. -/
def power? (n : Numeral) : Option Int :=
  match n.exponent with
  | none => some 0
  | some (negative, ds) =>
    let v := Decimal.value ds
    if v < 0x80000000 then some (if negative then -(v : Int) else v) else none

/-- A float times a power of ten, in steps that stay inside the table of exact powers. -/
def scale (x : Float) (exponent : Int) : (fuel : Nat) → Option Float
  | 0 => some x
  | fuel + 1 =>
    if exponent.natAbs ≤ 308 then
      let pow := Float.ofScientific 1 false exponent.natAbs
      if 0 ≤ exponent then
        let y := x * pow
        if y.isInf then none else some y
      else some (x / pow)
    else if x == 0 then some x
    else if 0 ≤ exponent then none
    else scale (x / 1e308) (exponent + 308) fuel

/-- The float of a numeral, or `none` when it is too large. A value that is too small is zero. -/
def float? (n : Numeral) : Option Float :=
  let (s, e) := n.significand
  let size :=
    match n.power? with
    | some p =>
      let total := max (min (e + p) 0x7FFFFFFF) (-0x80000000)
      scale s.toUInt64.toFloat total 8
    | none =>
      if s ≠ 0 ∧ n.exponent.map Prod.fst = some false then none else some 0
  size.map fun x => if n.negative then -x else x

/-- The number of a numeral, or `none` when it is too large. -/
def number? (n : Numeral) : Option Number :=
  let w := Decimal.value n.whole
  if n.fraction = [] ∧ n.exponent = none ∧ !n.negative ∧ w < UInt64.size then some (.integer w)
  else if n.fraction = [] ∧ n.exponent = none ∧ n.negative ∧ 0 < w ∧ w ≤ Decimal.integerBound then
    some (.integer (-w))
  else n.float?.map .decimal

end Numeral

end Accounts.Json
