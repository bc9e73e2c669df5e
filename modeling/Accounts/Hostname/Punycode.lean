import Accounts.Text.Pieces

/-!
# Characters as insertions

A label with characters beyond the basic ones has a form in basic characters alone: its basic ones
first, and behind a hyphen the others as insertions. The insertions are in the order of their
characters, and each is a number that counts on from the one before, in digits of a variable weight.

* `encode`: the form of a label;
* `decode?`: the label of a form.
-/

namespace Accounts.Hostname.Punycode

/-- One of the basic characters. -/
def isBasic (c : Char) : Bool := c.toNat < 128

/-! ## Digits -/

/-- The digit of a value below 36: a letter, and behind the letters a decimal digit. -/
def digit (d : Nat) : Char := if d < 26 then Char.ofNat (97 + d) else Char.ofNat (22 + d)

/-- The value of a digit. -/
def digitValue? (c : Char) : Option Nat :=
  if 'a' ≤ c ∧ c ≤ 'z' then some (c.toNat - 97)
  else if 'A' ≤ c ∧ c ≤ 'Z' then some (c.toNat - 65)
  else if '0' ≤ c ∧ c ≤ '9' then some (c.toNat - 22)
  else none

/-- A digit below this is the last of its number, at a place that counts in steps of 36. -/
def threshold (place bias : Nat) : Nat :=
  if place ≤ bias then 1 else if bias + 26 ≤ place then 26 else place - bias

theorem one_le_threshold (place bias : Nat) : 1 ≤ threshold place bias := by
  unfold threshold
  split
  · omega
  · split <;> omega

/-- The digits of a number from a place on. -/
def digitsFrom (bias place n : Nat) : List Char :=
  let t := threshold place bias
  if n < t then [digit n]
  else digit (t + (n - t) % (36 - t)) :: digitsFrom bias (place + 36) ((n - t) / (36 - t))
termination_by n
decreasing_by
  have := one_le_threshold place bias
  have := Nat.div_le_self (n - threshold place bias) (36 - threshold place bias)
  omega

/-- Takes a number down to the range of the thresholds, and counts by 36 the steps. -/
def reduce (n place : Nat) : Nat :=
  if 455 < n then reduce (n / 35) (place + 36) else place + 36 * n / (n + 38)
termination_by n

/-- The bias after a number: it follows the numbers, so that those to come are short. -/
def biasAfter (n size : Nat) (first : Bool) : Nat :=
  let n := if first then n / 700 else n / 2
  reduce (n + n / size) 0

/-! ## Writing -/

/-- The insertions of a label: each character that is not basic, and how many stand before it once
it is inserted. -/
def insertions (label : List Char) : List (Nat × Nat) :=
  let all := label.zipIdx.filterMap fun (c, k) =>
    if isBasic c then none else some (c.toNat, (label.take k).countP (· ≤ c))
  all.mergeSort fun a b => a.1 < b.1 || a.1 == b.1 && a.2 ≤ b.2

/-- The numbers of insertions. `size` characters are there, and the last insertion was of the number
`n` before place `i`. -/
def encodeFrom (size n i bias : Nat) (first : Bool) : List (Nat × Nat) → List Char
  | [] => []
  | (m, k) :: rest =>
    let distance := (m - n) * (size + 1) + k - i
    digitsFrom bias 36 distance ++
      encodeFrom (size + 1) m (k + 1) (biasAfter distance (size + 1) first) false rest

/-- The form of a label in basic characters. -/
def encode (label : List Char) : List Char :=
  let basic := label.filter isBasic
  let start := if basic.isEmpty then [] else basic ++ ['-']
  start ++ encodeFrom basic.length 128 0 72 true (insertions label)

/-! ## Reading -/

/-- The insertions that were read: the characters so far, the last insertion with its place, the
bias, and of the number at hand its value, the weight of its next digit and the place of that. -/
structure Reading where
  label : List Char
  last : Nat
  index : Nat
  bias : Nat
  first : Bool
  value : Nat
  weight : Nat
  place : Nat

/-- No number is at hand. -/
def Reading.ofLabel (label : List Char) : Reading := ⟨label, 128, 0, 72, true, 0, 1, 36⟩

/-- Inserts the character that a number leads to. -/
def Reading.insert? (r : Reading) (distance : Nat) : Option Reading :=
  let size := r.label.length + 1
  let n := r.last + (r.index + distance) / size
  let i := (r.index + distance) % size
  if h : n.isValidChar then
    some ⟨r.label.take i ++ Char.ofNatAux n h :: r.label.drop i, n, i + 1,
      biasAfter distance size r.first, false, 0, 1, 36⟩
  else none

/-- Takes one digit in. -/
def Reading.step? (r : Reading) (c : Char) : Option Reading := do
  let d ← digitValue? c
  let t := threshold r.place r.bias
  let value := r.value + d * r.weight
  if d < t then r.insert? value
  else return { r with value, weight := r.weight * (36 - t), place := r.place + 36 }

/-- The label of a form in basic characters. -/
def decode? (form : List Char) : Option (List Char) := do
  let (basic, digits) :=
    match Text.cutLast? '-' form with
    | some ([], _) | none => ([], form)
    | some sides => sides
  let r ← digits.foldlM Reading.step? (Reading.ofLabel basic)
  if r.place = 36 then return r.label else none

end Accounts.Hostname.Punycode
