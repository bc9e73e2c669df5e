import Accounts.Decimal.Reading
import Accounts.Time.Calendar
import Accounts.Toml.Text
import Accounts.Toml.Value

/-!
# Numbers, truth values, dates and times of TOML

A scalar without quotes is a run of characters that is one thing as a whole.

* `integer?`, `float?`: numbers, with underscores between digits;
* `moment?`: a date, a time of day, or both, with an offset;
* `word?`: the value of a run.
-/

namespace Accounts.Toml

/-- Digits of a class with single underscores between them, without the underscores. -/
def digits? (isDigit : Char → Bool) : List Char → Option (List Char)
  | [] => none
  | c :: cs =>
    if !isDigit c then none
    else
      match cs with
      | [] => some [c]
      | '_' :: rest => (digits? isDigit rest).map (c :: ·)
      | d :: rest => (digits? isDigit (d :: rest)).map (c :: ·)

/-- A number in a base other than ten, within 64 bits. -/
def based? (base : Nat) (cs : List Char) : Option Int := do
  let ds ← digits? (fun c => (Text.digitIn? base c).isSome) cs
  let n := Text.valueIn base (ds.filterMap (Text.digitIn? base))
  if n < Decimal.integerBound then some n else none

/-- Digits of a decimal number without leading zeros. -/
def whole? (cs : List Char) : Option (List Char) := do
  let ds ← digits? Decimal.isDigit cs
  match ds with
  | '0' :: _ :: _ => none
  | _ => some ds

/-- An integer of 64 bits. -/
def integer? (cs : List Char) : Option Int :=
  match cs with
  | '0' :: 'x' :: rest => based? 16 rest
  | '0' :: 'o' :: rest => based? 8 rest
  | '0' :: 'b' :: rest => based? 2 rest
  | _ => do
    let (negative, rest) := Decimal.sign cs
    let n := Decimal.value (← whole? rest)
    if negative then (if n ≤ Decimal.integerBound then some (-(n : Int)) else none)
    else if n < Decimal.integerBound then some n
    else none

/-- Whether a character starts an exponent. -/
def isExponentMark (c : Char) : Bool := c == 'e' || c == 'E'

/-- The exponent after its mark, or nothing. -/
def power? : List Char → Option Int
  | [] => some 0
  | _ :: cs => do
    let (negative, ds) := Decimal.sign cs
    let n := Decimal.value (← digits? Decimal.isDigit ds)
    some (if negative then -(n : Int) else n)

/-- Whole digits with a fraction, an exponent or both. -/
def decimal? (cs : List Char) : Option Float := do
  let before := cs.takeWhile fun c => !isExponentMark c
  let e ← power? (cs.drop before.length)
  let whole ← whole? (before.takeWhile (· != '.'))
  match before.dropWhile (· != '.') with
  | [] => if before.length = cs.length then none else some (Decimal.toFloat (Decimal.value whole) e)
  | _ :: rest =>
    let part ← digits? Decimal.isDigit rest
    some (Decimal.toFloat (Decimal.value (whole ++ part)) (e - part.length))

/-- A float. A positive one must not be too large. -/
def float? (cs : List Char) : Option Float :=
  let (negative, rest) := Decimal.sign cs
  if rest = ['i', 'n', 'f'] then some (Decimal.signed negative (1 / 0))
  else if rest = ['n', 'a', 'n'] then some (Decimal.signed negative (0 / 0))
  else
    match decimal? rest with
    | some x => if x.isInf && !negative then none else some (Decimal.signed negative x)
    | none => none

/-- A number of exactly `count` digits within bounds, and the rest. -/
def fixed? (count lo hi : Nat) (cs : List Char) : Option (Nat × List Char) :=
  match (Decimal.nat? (cs.take count)) with
  | some n =>
    if (cs.take count).length = count ∧ lo ≤ n ∧ n ≤ hi then some (n, cs.drop count) else none
  | none => none

/-- What follows a mark. -/
def after? (mark : Char) : List Char → Option (List Char)
  | c :: cs => if c = mark then some cs else none
  | [] => none

/-- The text of a number with leading zeros, after a mark. -/
def shown (mark : Char) (width n : Nat) : List Char := mark :: Decimal.padded width n

/-- A date, as text, and the rest. -/
def date? (cs : List Char) : Option (List Char × List Char) := do
  let (year, cs) ← fixed? 4 0 9999 cs
  let (month, cs) ← fixed? 2 1 12 (← after? '-' cs)
  let (day, cs) ← fixed? 2 1 31 (← after? '-' cs)
  if Date.isValid ⟨year, month, day⟩ then
    some (Decimal.padded 4 year ++ shown '-' 2 month ++ shown '-' 2 day, cs)
  else none

/-- A fraction of a second of at most nine digits, without zeros at its end. -/
def secondFraction? (cs : List Char) : Option (List Char × List Char) :=
  match cs with
  | '.' :: rest =>
    let ds := rest.takeWhile Decimal.isDigit
    let kept := ((ds.take 9).reverse.dropWhile (· == '0')).reverse
    if ds = [] then none
    else some (if kept = [] then [] else '.' :: kept, rest.drop ds.length)
  | cs => some ([], cs)

/-- A time of day, as text, and the rest. -/
def time? (cs : List Char) : Option (List Char × List Char) := do
  let (hour, cs) ← fixed? 2 0 23 cs
  let (minute, cs) ← fixed? 2 0 59 (← after? ':' cs)
  let (second, cs) ← fixed? 2 0 60 (← after? ':' cs)
  let (part, cs) ← secondFraction? cs
  some (Decimal.padded 2 hour ++ shown ':' 2 minute ++ shown ':' 2 second ++ part, cs)

/-- An offset or nothing, as text. -/
def offset? (cs : List Char) : Option (List Char) :=
  match cs with
  | [] => some []
  | ['Z'] => some ['Z']
  | ['z'] => some ['Z']
  | mark :: cs =>
    if mark = '+' ∨ mark = '-' then do
      let (hour, cs) ← fixed? 2 0 23 cs
      let (minute, cs) ← fixed? 2 0 59 (← after? ':' cs)
      let mark := if hour = 0 ∧ minute = 0 then '+' else mark
      if cs = [] then some (shown mark 2 hour ++ shown ':' 2 minute) else none
    else none

/-- A date, a time of day, or both with an offset, in the one form in which they are shown. -/
def moment? (cs : List Char) : Option (List Char) :=
  match date? cs with
  | some (date, []) => some date
  | some (date, mark :: rest) =>
    if mark = 'T' ∨ mark = 't' ∨ mark = ' ' then do
      let (time, rest) ← time? rest
      let offset ← offset? rest
      some (date ++ 'T' :: time ++ offset)
    else none
  | none =>
    match time? cs with
    | some (time, []) => some time
    | _ => none

/-- The value of a run of characters. -/
def word? (cs : List Char) : Option Toml :=
  if cs = ['t', 'r', 'u', 'e'] then some (.bool true)
  else if cs = ['f', 'a', 'l', 's', 'e'] then some (.bool false)
  else
    match moment? cs, float? cs, integer? cs with
    | some text, _, _ => some (.moment (String.ofList text))
    | none, some x, _ => some (.float x)
    | none, none, some n => some (.integer n)
    | none, none, none => none

/-- A character of a scalar without quotes. -/
def isWordChar (c : Char) : Bool :=
  c.isAlphanum || c == '_' || c == '-' || c == '+' || c == '.' || c == ':'

/-- The run of a scalar: a time may follow a date after one blank. -/
def wordRun (cs : List Char) : List Char :=
  let run := cs.takeWhile isWordChar
  match date? run, cs.drop run.length with
  | some (_, []), ' ' :: rest =>
    let second := rest.takeWhile isWordChar
    if (time? second).isSome then run ++ ' ' :: second else run
  | _, _ => run

/-- A scalar without quotes, and the rest. -/
def scalarWord? (cs : List Char) : Option (Toml × List Char) :=
  let run := wordRun cs
  (word? run).map fun v => (v, cs.drop run.length)

end Accounts.Toml
