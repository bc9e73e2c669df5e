import Accounts.Text.Digit
import Accounts.Text.Pieces

/-!
# Tables of characters

A class of characters is an ordered table of ranges of their numbers.

* `seek`: the entry of an ordered table at a place that comparison leads to, by halving the table;
* `inRanges`: membership in a class;
* `classOf?`: the class of a character, of several with a table each;
* `ranges`, `entries`: tables from lines of text.
-/

namespace Accounts.Text

/-- The entry that a comparison leads to, between two places of an ordered table. The places come
together by half in each step. -/
def seek {α : Type} (lead : α → Ordering) (table : Array α) : (budget lo hi : Nat) → Option α
  | 0, _, _ => none
  | budget + 1, lo, hi =>
    if hi ≤ lo then none
    else
      let mid := (lo + hi) / 2
      match table[mid]? with
      | none => none
      | some a =>
        match lead a with
        | .lt => seek lead table budget lo mid
        | .eq => some a
        | .gt => seek lead table budget (mid + 1) hi

/-- The entry of an ordered table that a comparison leads to. -/
def find? {α : Type} (lead : α → Ordering) (table : Array α) : Option α :=
  seek lead table (table.size.log2 + 2) 0 table.size

/-- Where a number lies, seen from a range: before it, in it or after it. -/
def side (n : Nat) (range : Nat × Nat) : Ordering :=
  if n < range.1 then .lt else if range.2 < n then .gt else .eq

/-- Whether a range of an ordered table holds a character. -/
def inRanges (table : Array (Nat × Nat)) (c : Char) : Bool := (find? (side c.toNat) table).isSome

/-- The first of several classes that holds a character. -/
def classOf? {α : Type} (tables : List (α × Array (Nat × Nat))) (c : Char) : Option α :=
  (tables.find? fun entry => inRanges entry.2 c).map (·.1)

/-- A range in base sixteen: its first and its last number with a hyphen between them, or a number
alone. -/
def range? (cs : List Char) : Option (Nat × Nat) := do
  match cutFirst? '-' cs with
  | some (first, last) => some (← hexNumber? first, ← hexNumber? last)
  | none =>
    let n ← hexNumber? cs
    some (n, n)

/-- The ranges of lines, with blanks between them. -/
def ranges (lines : List String) : Array (Nat × Nat) :=
  (lines.flatMap fun line => (pieces ' ' line.toList).filterMap range?).toArray

/-- Classes, each with the ranges of its lines. -/
def classes {α : Type} (lines : List (α × List String)) : List (α × Array (Nat × Nat)) :=
  lines.map fun (a, text) => (a, ranges text)

/-- The entries of lines, with commas between them, each of numbers in base sixteen with blanks
between them. -/
def entries (lines : List String) : Array (List Nat) :=
  (lines.flatMap fun line =>
    (pieces ',' line.toList).map fun entry => (pieces ' ' entry).filterMap hexNumber?).toArray

end Accounts.Text
