import Accounts.Decimal.Natural

/-!
# The shortest decimal of a binary number

A finite float is `m * 2 ^ q`. Every decimal in the interval of reals that round to it reads back
as it; the text of a float is the shortest of these, and of two equally short the nearer. Where two
are equally near as well, the format decides (`Tie`).

* `Binary`: a finite float taken apart;
* `Binary.shortest`: its shortest digits and their exponent;
* `plainText`: positional text of any magnitude, without an exponent;
* `pointText`: the same with at least one decimal place;
* `briefText`: positional text up to `10 ^ 16`, an exponent beyond.
-/

namespace Accounts.Decimal

/-- Which of two equally near decimals is taken. -/
inductive Tie
  | up
  | even

/-- A positive float: `mantissa * 2 ^ exponent`. At an even power of two the float below is nearer
than the float above. -/
structure Binary where
  mantissa : Nat
  exponent : Int
  evenPower : Bool

/-- The parts of a positive finite float with the given bits. -/
def Binary.ofBits (bits : UInt64) : Binary :=
  let fraction := (bits &&& 0xFFFFFFFFFFFFF).toNat
  let biased := ((bits >>> 52) &&& 0x7FF).toNat
  if biased = 0 then ⟨fraction, -1074, false⟩
  else ⟨fraction + 0x10000000000000, (biased : Int) - 1075, fraction == 0 && biased != 1⟩

namespace Binary

/-- The ratio `x * 2 ^ q / 10 ^ k` as numerator and denominator. -/
def ratio (x : Nat) (q k : Int) : Nat × Nat :=
  (x * Nat.pow 2 q.toNat * Nat.pow 10 (-k).toNat, Nat.pow 2 (-q).toNat * Nat.pow 10 k.toNat)

/-- Four times the value and the ends of its interval, in units of `2 ^ (exponent - 2)`. -/
def quarters (b : Binary) : Nat × Nat × Nat :=
  let v := 4 * b.mantissa
  (if b.evenPower then v - 1 else v - 2, v, v + 2)

/-- Whether the grid point `d * 10 ^ k` rounds to the value. -/
def holds (b : Binary) (d : Nat) (k : Int) : Bool :=
  let (lo, _, hi) := b.quarters
  let (n, den) := ratio lo (b.exponent - 2) k
  let (n', den') := ratio hi (b.exponent - 2) k
  if b.mantissa % 2 = 0 then n ≤ d * den && d * den' ≤ n' else n < d * den && d * den' < n'

/-- The nearer of the two grid points around the value that round to it, if there is one. -/
def onGrid? (b : Binary) (tie : Tie) (k : Int) : Option Nat :=
  let (n, den) := ratio b.mantissa b.exponent k
  let d := n / den
  match b.holds d k && d != 0, b.holds (d + 1) k with
  | true, true =>
    let down : Bool :=
      match tie with
      | .up => 2 * (n % den) < den
      | .even => 2 * (n % den) < den || (2 * (n % den) == den && d % 2 == 0)
    some (if down then d else d + 1)
  | true, false => some d
  | false, true => some (d + 1)
  | false, false => none

/-- A grid exponent with no point below the value: `log 2` to base ten is just above `1233 / 4096`.
-/
def coarsest (b : Binary) : Int := (b.mantissa.log2 + b.exponent) * 1233 / 4096 + 2

/-- The first grid, from coarse to fine, with a point that rounds to the value. -/
def search (b : Binary) (tie : Tie) (top : Int) : (tries place : Nat) → Nat × Int
  | 0, place => (b.mantissa, top - place)
  | tries + 1, place =>
    match b.onGrid? tie (top - place) with
    | some d => (d, top - place)
    | none => b.search tie top tries (place + 1)

/-- Digits without the zeros at their end, and how many zeros were taken. -/
def withoutZeros (ds : List Char) : List Char × Nat :=
  let kept := (ds.reverse.dropWhile (· == '0')).reverse
  (kept, ds.length - kept.length)

/-- The shortest digits `d` and the exponent `k` with `d * 10 ^ k` reading back as the value. -/
def shortest (b : Binary) (tie : Tie) : List Char × Int :=
  let (d, k) := b.search tie b.coarsest 21 0
  let (ds, zeros) := withoutZeros (digits d)
  (ds, k + zeros)

end Binary

/-- Digits and an exponent in positional form. -/
def positional (ds : List Char) (k : Int) : List Char :=
  let point := (ds.length : Int) + k
  if 0 ≤ k then ds ++ List.replicate k.toNat '0'
  else if 0 < point then ds.take point.toNat ++ '.' :: ds.drop point.toNat
  else '0' :: '.' :: List.replicate (-point).toNat '0' ++ ds

/-- The sign, the digits and the exponent of a finite float that is not zero. -/
def parts (tie : Tie) (x : Float) : List Char × List Char × Int :=
  let bits := x.toBits
  let (ds, k) := (Binary.ofBits (bits &&& 0x7FFFFFFFFFFFFFFF)).shortest tie
  (if bits >>> 63 == 1 then ['-'] else [], ds, k)

/-- Whether the sign bit is set. -/
def isNegative (x : Float) : Bool := x.toBits >>> 63 == 1

/-- Positional text of any float, without a point for whole values; a tie goes up. -/
def plainText (x : Float) : String :=
  if x.isNaN then "NaN"
  else if x.isInf then (if isNegative x then "-inf" else "inf")
  else if x == 0 then (if isNegative x then "-0" else "0")
  else
    let (sign, ds, k) := parts .up x
    String.ofList (sign ++ positional ds k)

/-- Positional text with at least one decimal place. -/
def pointText (x : Float) : String :=
  let text := plainText x
  if x.isFinite && !text.toList.contains '.' then text ++ ".0" else text

/-- Text of a finite float: positional from `0.00001` up to sixteen digits, otherwise one digit, the
others after a point, and an exponent; a tie goes to the even digit. -/
def briefText (x : Float) : String :=
  if x == 0 then (if isNegative x then "-0.0" else "0.0")
  else
    let (sign, ds, k) := parts .even x
    let point := (ds.length : Int) + k
    let body :=
      if 0 ≤ k && point ≤ 16 then positional ds k ++ ['.', '0']
      else if -5 < point && point ≤ 16 then positional ds k
      else
        let lead := if ds.length ≤ 1 then ds else ds.take 1 ++ '.' :: ds.drop 1
        lead ++ 'e' :: intDigits (point - 1)
    String.ofList (sign ++ body)

end Accounts.Decimal
