import Accounts.Time.Calendar
import Accounts.Decimal.Natural

/-!
# Points in time

A point in time is a count of seconds since the start of 1970 and nanoseconds; nanoseconds from one
to two billion stand for a leap second. Text gives the date, the time of day and the offset of
universal time.

* `Timestamp`: a point in time;
* `Timestamp.earliest`, `Timestamp.ofSeconds?`: the range of the calendar;
* `Timestamp.isoText`: the text with `Z`;
* `Timestamp.offsetText`: the text with `+00:00`.
-/

namespace Accounts

/-- A point in time. -/
structure Timestamp where
  seconds : Int
  nanos : Nat
  deriving DecidableEq

namespace Timestamp

/-- The years of the calendar. -/
def firstYear : Int := -262143

/-- The last year of the calendar. -/
def lastYear : Int := 262142

/-- The first second of the calendar. -/
def firstSecond : Int := (Date.mk firstYear 1 1).days * 86400

/-- The last second of the calendar. -/
def lastSecond : Int := (Date.mk lastYear 12 31).days * 86400 + 86399

theorem firstSecond_eq : firstSecond = -8334601228800 := by decide

theorem lastSecond_eq : lastSecond = 8210266876799 := by decide

/-- The first point in time of the calendar. -/
def earliest : Timestamp := ⟨firstSecond, 0⟩

/-- The start of a second, if the calendar holds it. -/
def ofSeconds? (s : Int) : Option Timestamp :=
  if firstSecond ≤ s ∧ s ≤ lastSecond then some ⟨s, 0⟩ else none

/-- The order of points in time. -/
def le (a b : Timestamp) : Bool :=
  a.seconds < b.seconds || (a.seconds == b.seconds && a.nanos ≤ b.nanos)

/-- The year with four digits; a year outside of these has a sign. -/
def yearChars (year : Int) : List Char :=
  if 0 ≤ year ∧ year ≤ 9999 then Decimal.padded 4 year.toNat
  else (if year < 0 then '-' else '+') :: Decimal.padded 4 year.natAbs

/-- The fraction of a second: nothing, or three, six or nine digits. -/
def fractionChars (nanos : Nat) : List Char :=
  if nanos = 0 then []
  else if nanos % 1000000 = 0 then '.' :: Decimal.padded 3 (nanos / 1000000)
  else if nanos % 1000 = 0 then '.' :: Decimal.padded 6 (nanos / 1000)
  else '.' :: Decimal.padded 9 nanos

/-- The date of a point in time. -/
def date (t : Timestamp) : Date := Date.ofDays (t.seconds / 86400)

/-- The second of the day. -/
def secondOfDay (t : Timestamp) : Nat := (t.seconds % 86400).toNat

/-- Date and time of day. -/
def civilChars (t : Timestamp) : List Char :=
  let d := t.date
  let s := t.secondOfDay
  let second := s % 60 + t.nanos / 1000000000
  yearChars d.year ++ '-' :: Decimal.padded 2 d.month ++ '-' :: Decimal.padded 2 d.day ++
    'T' :: Decimal.padded 2 (s / 3600) ++ ':' :: Decimal.padded 2 (s / 60 % 60) ++
    ':' :: Decimal.padded 2 second ++ fractionChars (t.nanos % 1000000000)

/-- Text with `Z` for universal time. -/
def isoText (t : Timestamp) : String := String.ofList (t.civilChars ++ ['Z'])

/-- Text with the offset of universal time. -/
def offsetText (t : Timestamp) : String :=
  String.ofList (t.civilChars ++ ['+', '0', '0', ':', '0', '0'])

end Timestamp

end Accounts
