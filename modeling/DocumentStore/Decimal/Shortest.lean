/-
  DocumentStore.Decimal.Shortest — the decimal text of a binary floating-point number.

  The digits are the fewest that read back as the same number; of two such decimals with
  equally many digits the nearer one is taken, in a tie the one with an even last digit.
  The value's two neighbours on each decimal grid, coarsest first, are enough to find
  them: when any point of a grid reads back, so does one of these two.

  A number from 0.0001 up to below 10^16 is written positionally, with at least one digit
  on either side of the point; any other in exponent form with a signed exponent of at
  least two digits.
-/

import DocumentStore.Decimal.Binary64

namespace DocumentStore.Decimal

/-- A positive number and the ends of the interval that rounds to it, over one denominator. -/
structure Interval where
  low : Nat
  value : Nat
  high : Nat
  den : Nat
  closed : Bool

/-- Ends lie half a unit away, a quarter below where the unit shrinks; they round to an even
mantissa only. -/
def Interval.of (m : Nat) (e : Int) : Interval :=
  let below := if m = twoTo 52 ∧ minExponent < e then 1 else 2
  let (unit, den) := if 2 ≤ e then (twoTo (e - 2).toNat, 1) else (1, twoTo (2 - e).toNat)
  ⟨(4 * m - below) * unit, 4 * m * unit, (4 * m + 2) * unit, den, m % 2 == 0⟩

/-- `num / den * 10 ^ (-s)` as a quotient of naturals. -/
def scaleTen (num den : Nat) (s : Int) : Nat × Nat :=
  if 0 ≤ s then (num, den * tenTo s.toNat) else (num * tenTo (-s).toNat, den)

/-- Whether `d * 10 ^ s` lies in the interval. -/
def Interval.has (v : Interval) (d : Nat) (s : Int) : Bool :=
  let (low, den) := scaleTen v.low v.den s
  let (high, _) := scaleTen v.high v.den s
  if v.closed then low ≤ d * den && d * den ≤ high else low < d * den && d * den < high

/-- The number of digits before the decimal point; zero or less for a fraction. -/
def Interval.pointPlace (v : Interval) : Int :=
  let guess : Int := ((v.value.log2 : Int) - (v.den.log2 : Int)) * 30103 / 100000
  let under (k : Int) : Bool := let (n, d) := scaleTen v.value v.den k; n < d
  if under guess then guess else if under (guess + 1) then guess + 1 else guess + 2

/-- The better of the value's two neighbours on the grid of step `10 ^ s`, if one reads back. -/
def Interval.onGrid (v : Interval) (s : Int) : Option Nat :=
  let (num, den) := scaleTen v.value v.den s
  let d := num / den
  match v.has d s, v.has (d + 1) s with
  | true, true => some (roundDiv num den)
  | true, false => some d
  | false, true => some (d + 1)
  | false, false => none

/-- The digits and the power of ten of their last place. -/
def shortest (m : Nat) (e : Int) : Nat × Int :=
  let v := Interval.of m e
  let place := v.pointPlace
  ((List.range 17).findSome? fun i =>
      let s := place - (i + 1 : Nat)
      (v.onGrid s).map fun d => (d, s)).getD (0, 0)

/-- The digits of `n` without the zeros at their end. -/
def significantDigits (n : Nat) : List Char :=
  ((Nat.toDigits 10 n).reverse.dropWhile (· == '0')).reverse

/-- Digits with the point after the first `place` of them, in the layout described above. -/
def layOut (digits : List Char) (place : Int) : List Char :=
  if -4 < place ∧ place ≤ 16 then
    if place ≤ 0 then '0' :: '.' :: List.replicate (-place).toNat '0' ++ digits
    else
      let whole := digits.take place.toNat
      let fraction := digits.drop place.toNat
      whole ++ List.replicate (place.toNat - digits.length) '0' ++
        '.' :: (if fraction.isEmpty then ['0'] else fraction)
  else
    let power := place - 1
    let size := Nat.toDigits 10 power.natAbs
    digits.take 1 ++ (if digits.length ≤ 1 then [] else '.' :: digits.drop 1) ++
      'e' :: (if power < 0 then '-' else '+') :: (if size.length < 2 then '0' :: size else size)

/-- The text of a number, given the texts of infinity and of not-a-number. -/
def Binary64.text (infinity nan : String) : Binary64 → String
  | .nan => nan
  | .infinite negative => (if negative then "-" else "") ++ infinity
  | .finite negative m e =>
    let digits :=
      if m = 0 then ['0', '.', '0']
      else
        let (d, s) := shortest m e
        layOut (significantDigits d) (((Nat.toDigits 10 d).length : Int) + s)
    String.ofList ((if negative then ['-'] else []) ++ digits)

/-- An integer in decimal, with a minus sign if it is negative. -/
def intChars (n : Int) : List Char :=
  (if n < 0 then ['-'] else []) ++ Nat.toDigits 10 n.natAbs

def intText (n : Int) : String := String.ofList (intChars n)

end DocumentStore.Decimal
