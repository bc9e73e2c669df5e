/-!
# Digits of a base

Digits of a base of at most sixteen, in either case, and the numbers that they write.

* `digitIn?`: the value of a digit;
* `valueIn`: the number that values of digits make;
* `hexNumber?`: a number in base sixteen.
-/

namespace Accounts.Text

/-- The value of a digit of base sixteen. -/
def hexDigit? (c : Char) : Option Nat :=
  if '0' ≤ c ∧ c ≤ '9' then some (c.toNat - 48)
  else if 'a' ≤ c ∧ c ≤ 'f' then some (c.toNat - 87)
  else if 'A' ≤ c ∧ c ≤ 'F' then some (c.toNat - 55)
  else none

/-- The value of a digit in a base of at most sixteen. -/
def digitIn? (base : Nat) (c : Char) : Option Nat := (hexDigit? c).filter (· < base)

/-- The number that the values of digits make, the first digit weighing most. -/
def valueIn (base : Nat) (ds : List Nat) : Nat := ds.foldl (fun n d => n * base + d) 0

/-- The number that one or more digits of base sixteen write. -/
def hexNumber? (cs : List Char) : Option Nat :=
  if cs.isEmpty then none else (cs.mapM hexDigit?).map (valueIn 16)

end Accounts.Text
