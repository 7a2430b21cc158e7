/-
  DocumentStore.Decimal.Binary64 — binary floating-point numbers with 53 significant bits.

  A finite number is `mantissa * 2 ^ exponent` with a sign; the exponent is never below
  `-1074`, and above it the mantissa has all its 53 bits, so a number has one form (zero
  has two signs). `ofRatio` rounds a quotient of naturals to the nearest number, a tie to
  the even mantissa, and what exceeds the range to an infinity.

  Every finite number is a whole multiple of `2 ^ (-1074)`. `rank?` is that multiple, so
  numbers and integers of any size are compared exactly, as integers.
-/

namespace DocumentStore.Decimal

inductive Binary64 where
  | nan
  | infinite (negative : Bool)
  | finite (negative : Bool) (mantissa : Nat) (exponent : Int)
  deriving DecidableEq, Repr

def minExponent : Int := -1074

def maxExponent : Int := 971

def twoTo (n : Nat) : Nat := Nat.pow 2 n

def tenTo (n : Nat) : Nat := Nat.pow 10 n

/-- `num / den` to the nearest natural, a tie to the even one. -/
def roundDiv (num den : Nat) : Nat :=
  let q := num / den
  let r := num % den
  if 2 * r < den then q else if den < 2 * r then q + 1 else q + q % 2

/-- `num / den * 2 ^ (-e)` as a quotient of naturals. -/
def scaleRatio (num den : Nat) (e : Int) : Nat × Nat :=
  if 0 ≤ e then (num, den * twoTo e.toNat) else (num * twoTo (-e).toNat, den)

namespace Binary64

def zero (negative : Bool) : Binary64 := .finite negative 0 minExponent

/-- The exponent that gives the mantissa of `num / den` its 53 bits, or the least one. -/
def exponentOf (num den : Nat) : Int :=
  let e : Int := (num.log2 : Int) - (den.log2 : Int) - 52
  let (n, d) := scaleRatio num den e
  max minExponent (if n / d < twoTo 52 then e - 1 else e)

def ofRatio (negative : Bool) (num den : Nat) : Binary64 :=
  if num = 0 then zero negative
  else
    let e := exponentOf num den
    let (n, d) := scaleRatio num den e
    let m := roundDiv n d
    let (m, e) := if m = twoTo 53 then (twoTo 52, e + 1) else (m, e)
    if maxExponent < e then .infinite negative else .finite negative m e

/-- The number nearest to `digits * 10 ^ exponent`. -/
def ofDecimal (negative : Bool) (digits : Nat) (exponent : Int) : Binary64 :=
  let size : Int := (digits.log2 : Int) * 30103 / 100000 + exponent
  if digits = 0 ∨ size < -400 then zero negative
  else if 400 < size then .infinite negative
  else if 0 ≤ exponent then ofRatio negative (digits * tenTo exponent.toNat) 1
  else ofRatio negative digits (tenTo (-exponent).toNat)

/-- The whole number left when the fraction is dropped. -/
def truncate? : Binary64 → Option Int
  | .nan => none
  | .infinite _ => none
  | .finite negative m e =>
    let n : Nat := if 0 ≤ e then m * twoTo e.toNat else m / twoTo (-e).toNat
    some (if negative then -(n : Int) else n)

def isFinite : Binary64 → Bool
  | .finite .. => true
  | _ => false

def isZero : Binary64 → Bool
  | .finite _ m _ => m == 0
  | _ => false

end Binary64

/-- A place on the number line in units of `2 ^ (-1074)`, or beyond either end of it. -/
inductive Rank where
  | bottom
  | at_ (n : Int)
  | top
  deriving DecidableEq, Repr

def Rank.compare : Rank → Rank → Ordering
  | .bottom, .bottom => .eq
  | .bottom, _ => .lt
  | _, .bottom => .gt
  | .top, .top => .eq
  | .top, _ => .gt
  | _, .top => .lt
  | .at_ a, .at_ b => Ord.compare a b

/-- A number as written: whole, or binary floating-point. -/
inductive Number where
  | int (n : Int)
  | float (x : Binary64)
  deriving DecidableEq, Repr

/-- Where a number stands; not-a-number stands nowhere. -/
def Number.rank? : Number → Option Rank
  | .int n => some (.at_ (n * twoTo 1074))
  | .float .nan => none
  | .float (.infinite negative) => some (if negative then .bottom else .top)
  | .float (.finite negative m e) =>
    let n : Nat := m * twoTo (e - minExponent).toNat
    some (.at_ (if negative then -(n : Int) else n))

/-- How two numbers compare by value; not-a-number compares with nothing. -/
def Number.compare? (a b : Number) : Option Ordering :=
  match a.rank?, b.rank? with
  | some x, some y => some (x.compare y)
  | _, _ => none

def Number.sameValue (a b : Number) : Bool := a.compare? b == some .eq

end DocumentStore.Decimal
