/-
  DocumentStore.Text.Digit — digits of any script and the values they stand for.

  Every script writes its decimal digits as a row of ten in rising order. A superscript or
  circled digit is a digit too, but stands for no decimal value.
-/

import DocumentStore.Text.DigitTable

namespace DocumentStore.Text

/-- The value from 0 to 9 that a decimal digit stands for. -/
def decimalValue? (c : Char) : Option Nat :=
  let n := c.toNat
  if n < 128 then
    if 48 ≤ n ∧ n ≤ 57 then some (n - 48) else none
  else (decimalZeros.find? fun z => z ≤ n && n ≤ z + 9).map fun z => n - z

def isDigit (c : Char) : Bool :=
  (decimalValue? c).isSome || otherDigitRanges.has c.toNat

/-- The character of the digit `n % 10`. -/
def asciiDigit (n : Nat) : Char := Char.ofNat (48 + n % 10)

/-- The number that decimal digits, most significant first, write. -/
def ofDigits (ds : List Nat) : Nat := ds.foldl (fun n d => 10 * n + d) 0

end DocumentStore.Text
