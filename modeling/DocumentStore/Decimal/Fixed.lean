/-
  DocumentStore.Decimal.Fixed — floating-point numbers to a given number of places.

  The exact value is rounded, a half to the even digit. `positional` has the places behind
  the point; `scientific` has them behind the point of a number with one digit in front of
  it; `general` takes the form that suits the size and drops zeros at the end.
-/

import DocumentStore.Decimal.Binary64

namespace DocumentStore.Decimal.Fixed

/-- A number without its sign, as a quotient. -/
structure Magnitude where
  num : Nat
  den : Nat
  deriving DecidableEq, Repr

def magnitude (mantissa : Nat) (exponent : Int) : Magnitude :=
  if 0 ≤ exponent then ⟨mantissa * twoTo exponent.toNat, 1⟩ else ⟨mantissa, twoTo (-exponent).toNat⟩

/-- The magnitude times a power of ten, rounded. -/
def Magnitude.scaled (x : Magnitude) (power : Int) : Nat :=
  if 0 ≤ power then roundDiv (x.num * tenTo power.toNat) x.den
  else roundDiv x.num (x.den * tenTo (-power).toNat)

/-- How many places behind the point the first digit that is not zero stands. -/
def leadingZeros (num den : Nat) : (fuel : Nat) → Nat
  | 0 => 0
  | fuel + 1 => if den ≤ num then 0 else leadingZeros (num * 10) den fuel + 1

/-- The power of ten of the first digit; no double is so small that it is not found. -/
def Magnitude.leading (x : Magnitude) : Int :=
  if x.num = 0 then 0
  else if x.den ≤ x.num then ((Nat.toDigits 10 (x.num / x.den)).length : Int) - 1
  else -(leadingZeros x.num x.den 330 : Int)

/-- The digits, `places` of them behind the first, and the power of ten of the first. -/
def Magnitude.digits (x : Magnitude) (places : Nat) : List Char × Int :=
  let e := x.leading
  let n := x.scaled (places - e)
  if n = tenTo (places + 1) then (Nat.toDigits 10 (n / 10), e + 1)
  else
    let ds := Nat.toDigits 10 n
    (List.replicate (places + 1 - ds.length) '0' ++ ds, e)

/-- The digits with a point in front of the last `places`; `point` keeps it in front of none. -/
def withPoint (point : Bool) (places : Nat) (ds : List Char) : List Char :=
  let ds := List.replicate (places + 1 - ds.length) '0' ++ ds
  let whole := ds.take (ds.length - places)
  if places = 0 then if point then whole ++ ['.'] else whole
  else whole ++ '.' :: ds.drop (ds.length - places)

def positional (point : Bool) (places : Nat) (x : Magnitude) : List Char :=
  withPoint point places (Nat.toDigits 10 (x.scaled places))

/-- An exponent with its sign and at least two digits. -/
def exponentChars (e : Int) : List Char :=
  let ds := Nat.toDigits 10 e.natAbs
  'e' :: (if e < 0 then '-' else '+') :: (List.replicate (2 - ds.length) '0' ++ ds)

def scientific (point : Bool) (places : Nat) (x : Magnitude) : List Char :=
  let (ds, e) := x.digits places
  withPoint point places ds ++ exponentChars e

/-- Without the zeros behind the point, and without the point if nothing else is behind it. -/
def dropZeros (cs : List Char) : List Char :=
  if cs.contains '.' then
    match cs.reverse.dropWhile (· = '0') with
    | '.' :: rest => rest.reverse
    | rest => rest.reverse
  else cs

/-- No number has more digits than that before nothing but zeros follow. -/
def mostDigits : Nat := 1100

/-- So many digits in all, at least one; `full` keeps the zeros at the end. -/
def general (full : Bool) (count : Nat) (x : Magnitude) : List Char :=
  let count := if full then count else min count mostDigits
  let places := count - 1
  let (ds, e) := x.digits places
  let trim := fun cs => if full then cs else dropZeros cs
  if -4 ≤ e ∧ e < count then
    trim (positional full (places - e).toNat x)
  else trim (withPoint full places ds) ++ exponentChars e

end DocumentStore.Decimal.Fixed
