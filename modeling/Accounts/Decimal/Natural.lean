/-!
# Whole numbers in decimal

Digits of natural numbers and integers, written without leading zeros, and read back.

* `digits`, `ofNat`, `ofInt`: writing;
* `padded`: writing with leading zeros up to a width;
* `value`, `nat?`: reading;
* `integerBound`: where integers of 64 bits end.
-/

namespace Accounts.Decimal

/-- One of the ten digits. -/
def isDigit (c : Char) : Bool := '0' ≤ c && c ≤ '9'

/-- The first number beyond the integers of 64 bits with a sign. -/
def integerBound : Nat := 0x8000000000000000

/-- The number that a list of digits writes. -/
def value (cs : List Char) : Nat := cs.foldl (fun n c => 10 * n + (c.toNat - 48)) 0

/-- The number that a list of characters writes, if it is one or more digits. -/
def nat? (cs : List Char) : Option Nat :=
  if cs ≠ [] ∧ cs.all isDigit = true then some (value cs) else none

/-- The digits of a number, without leading zeros. -/
def digits (n : Nat) : List Char := Nat.toDigits 10 n

/-- A natural number as text. -/
def ofNat (n : Nat) : String := String.ofList (digits n)

/-- The sign and the digits of an integer. -/
def intDigits : Int → List Char
  | .ofNat n => digits n
  | .negSucc n => '-' :: digits (n + 1)

/-- An integer as text. -/
def ofInt (n : Int) : String := String.ofList (intDigits n)

/-- The digits of a number with leading zeros up to `width`. -/
def padded (width n : Nat) : List Char :=
  List.replicate (width - (digits n).length) '0' ++ digits n

end Accounts.Decimal
