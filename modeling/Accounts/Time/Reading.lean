import Accounts.Time.Timestamp
import Accounts.Text.Blank

/-!
# Reading points in time

Date, time of day and offset, with some freedom: blanks may stand before each number and each mark,
leading zeros may be missing, the date may be parted from the time by `T` or a blank, and the hours
of the offset from its minutes by colons and blanks or by nothing.

* `Timestamp.parse?`: the point in time of a text.
-/

namespace Accounts.Timestamp

/-- A list without the blanks at its start. -/
def afterBlanks (cs : List Char) : List Char := cs.dropWhile Text.isBlank

/-- A number of at most `width` digits at the start of a list, and the rest. -/
def number? (width : Nat) (cs : List Char) : Option (Nat × List Char) :=
  let ds := (cs.take width).takeWhile Decimal.isDigit
  if ds = [] then none else some (Decimal.value ds, cs.drop ds.length)

/-- A number of any length with a sign, or of at most four digits without. -/
def year? (cs : List Char) : Option (Int × List Char) :=
  match cs with
  | '-' :: cs => (number? cs.length cs).map fun (n, rest) => (-(n : Int), rest)
  | '+' :: cs => (number? cs.length cs).map fun (n, rest) => ((n : Int), rest)
  | cs => (number? 4 cs).map fun (n, rest) => ((n : Int), rest)

/-- A mark after blanks, and then a number of at most two digits after blanks. -/
def marked? (mark : Char) (cs : List Char) : Option (Nat × List Char) :=
  match afterBlanks cs with
  | c :: cs => if c = mark then number? 2 (afterBlanks cs) else none
  | [] => none

/-- A fraction of a second in nanoseconds; digits after the ninth are passed over. -/
def fraction? (cs : List Char) : Option (Nat × List Char) :=
  match cs with
  | '.' :: cs =>
    let ds := (cs.take 9).takeWhile Decimal.isDigit
    if ds = [] then none
    else some (Decimal.value ds * Nat.pow 10 (9 - ds.length), cs.dropWhile Decimal.isDigit)
  | cs => some (0, cs)

/-- Two digits at the start of a list. -/
def twoDigits? : List Char → Option (Nat × List Char)
  | a :: b :: cs =>
    if Decimal.isDigit a && Decimal.isDigit b then some (Decimal.value [a, b], cs) else none
  | _ => none

/-- Hours and minutes of an offset, in seconds. -/
def shift? (cs : List Char) : Option (Int × List Char) := do
  let (hours, cs) ← twoDigits? cs
  let (minutes, cs) ← twoDigits? (cs.dropWhile fun c => c == ':' || Text.isBlank c)
  if minutes < 60 ∧ hours < 24 then some ((hours * 3600 + minutes * 60 : Nat), cs) else none

/-- The offset from universal time, in seconds. -/
def offset? (cs : List Char) : Option (Int × List Char) :=
  if (cs.take 3).map Char.toLower = ['u', 't', 'c'] then some (0, cs.drop 3)
  else
    match cs with
    | 'Z' :: cs => some (0, cs)
    | 'z' :: cs => some (0, cs)
    | '+' :: cs => shift? cs
    | '-' :: cs => (shift? cs).map fun (n, rest) => (-n, rest)
    | '−' :: cs => (shift? cs).map fun (n, rest) => (-n, rest)
    | _ => none

/-- The mark between date and time. -/
def separated? : List Char → Option (List Char)
  | 'T' :: cs => some cs
  | 't' :: cs => some cs
  | ' ' :: cs => some cs
  | _ => none

/-- The point in time of a date, a time of day and an offset. A sixtieth second is a leap second. -/
def ofCivil? (date : Date) (hour minute second nanos : Nat) (offset : Int) : Option Timestamp :=
  if date.isValid && firstYear ≤ date.year && date.year ≤ lastYear && hour < 24 && minute < 60 &&
      second ≤ 60 then
    let day := hour * 3600 + minute * 60 + min second 59
    let seconds := date.days * 86400 + day - offset
    if firstSecond ≤ seconds ∧ seconds ≤ lastSecond then
      some ⟨seconds, if second = 60 then 1000000000 + nanos else nanos⟩
    else none
  else none

/-- The point in time of a text. -/
def parse? (s : String) : Option Timestamp := do
  let (year, cs) ← year? (afterBlanks s.toList)
  let (month, cs) ← marked? '-' cs
  let (day, cs) ← marked? '-' cs
  let cs ← separated? cs
  let (hour, cs) ← number? 2 (afterBlanks cs)
  let (minute, cs) ← marked? ':' cs
  let (second, cs) ← marked? ':' cs
  let (nanos, cs) ← fraction? cs
  let (offset, cs) ← offset? (afterBlanks cs)
  if afterBlanks cs = [] then ofCivil? ⟨year, month, day⟩ hour minute second nanos offset else none

end Accounts.Timestamp
