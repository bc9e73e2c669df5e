import Accounts.Decimal.Natural

/-!
# Reading numbers from text

Integers with an optional sign, and floats in decimal.

* `natural?`, `integer?`: digits with an optional sign, within bounds;
* `toFloat`: the float nearest to digits and an exponent;
* `float?`: a float, infinity or no number in words, or digits with point and exponent.
-/

namespace Accounts.Decimal

/-- A number below `bound`, with an optional plus sign. -/
def natural? (bound : Nat) (s : String) : Option Nat :=
  let digits := match s.toList with
    | '+' :: cs => cs
    | cs => cs
  (nat? digits).filter (· < bound)

/-- An integer of 64 bits with an optional sign. -/
def integer? (s : String) : Option Int :=
  match s.toList with
  | '-' :: cs => ((nat? cs).filter (· ≤ integerBound)).map fun n => -(n : Int)
  | '+' :: cs => ((nat? cs).filter (· < integerBound)).map Int.ofNat
  | cs => ((nat? cs).filter (· < integerBound)).map Int.ofNat

/-- The float nearest to `m * 10 ^ e`. -/
def toFloat (m : Nat) (e : Int) : Float :=
  let size := (digits m).length + e
  if m = 0 ∨ size < -400 then 0
  else if 400 < size then 1 / 0
  else if 0 ≤ e then Float.ofScientific m false e.toNat
  else Float.ofScientific m true (-e).toNat

/-- The sign at the start of a list; true for a minus. -/
def sign : List Char → Bool × List Char
  | '-' :: cs => (true, cs)
  | '+' :: cs => (false, cs)
  | cs => (false, cs)

/-- A float with a sign. -/
def signed (negative : Bool) (x : Float) : Float := if negative then -x else x

/-- The exponent at the end of a number, or nothing. -/
def exponent? : List Char → Option Int
  | [] => some 0
  | c :: cs =>
    if c = 'e' ∨ c = 'E' then
      let (negative, ds) := sign cs
      (nat? ds).map fun n => if negative then -(n : Int) else n
    else none

/-- The fraction after the whole digits, and the rest. -/
def fraction (cs : List Char) : List Char × List Char :=
  match cs with
  | '.' :: cs => (cs.takeWhile isDigit, cs.dropWhile isDigit)
  | cs => ([], cs)

/-- Digits with an optional point and an optional exponent, at least one digit. -/
def unsignedFloat? (cs : List Char) : Option Float := do
  let whole := cs.takeWhile isDigit
  let (part, rest) := fraction (cs.dropWhile isDigit)
  if whole = [] ∧ part = [] then none
  let e ← exponent? rest
  some (toFloat (value (whole ++ part)) (e - part.length))

/-- A float: the words for infinity and for no number in any case, or a decimal. -/
def float? (s : String) : Option Float :=
  let (negative, cs) := sign s.toList
  let word := String.ofList (cs.map Char.toLower)
  let size :=
    if word = "inf" ∨ word = "infinity" then some (1 / 0)
    else if word = "nan" then some (0 / 0)
    else unsignedFloat? cs
  size.map (signed negative)

end Accounts.Decimal
