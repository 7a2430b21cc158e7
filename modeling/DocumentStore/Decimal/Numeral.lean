/-
  DocumentStore.Decimal.Numeral — numbers written out by people.

  Blanks around the number are dropped, digits may come from any script, and one
  underscore may stand between two digits. A whole number is a sign and digits; any other
  number may have a point and an exponent, or is `inf`, `infinity` or `nan` in any letter
  case. The four information separators, blank elsewhere, are no blanks here.

  A whole number of more than 4300 digits is refused by itself.
-/

import DocumentStore.Decimal.Binary64
import DocumentStore.Text.Blank
import DocumentStore.Text.Digit

namespace DocumentStore.Decimal

open DocumentStore.Text

/-- The character as numbers are read: digits and blanks of every script as the plain ones. -/
def plainChar (c : Char) : Char :=
  if c.toNat < 128 then c
  else if isBlank c then ' '
  else
    match decimalValue? c with
    | some d => asciiDigit d
    | none => '?'

def isNumberBlank (c : Char) : Bool := c == ' ' || (9 ≤ c.toNat && c.toNat ≤ 13)

def plainNumeral (s : String) : List Char :=
  dropEndWhile isNumberBlank ((s.toList.map plainChar).dropWhile isNumberBlank)

/-- Reads digits with single underscores between them; `mid` says that a digit came last. -/
def takeDigits (mid : Bool) : List Char → List Nat × List Char
  | [] => ([], [])
  | c :: cs =>
    if '0' ≤ c ∧ c ≤ '9' then
      let (ds, rest) := takeDigits true cs
      ((c.toNat - 48) :: ds, rest)
    else if c = '_' ∧ mid then
      match takeDigits false cs with
      | ([], _) => ([], c :: cs)
      | found => found
    else ([], c :: cs)

/-- The sign in front of a number: whether it is negative, and the rest. -/
def takeSign : List Char → Bool × List Char
  | '-' :: cs => (true, cs)
  | '+' :: cs => (false, cs)
  | cs => (false, cs)

/-- The exponent at the end of a number, none being zero. -/
def readExponent : List Char → Option Int
  | [] => some 0
  | c :: cs =>
    if c = 'e' ∨ c = 'E' then
      let (negative, cs) := takeSign cs
      match takeDigits false cs with
      | ([], _) => none
      | (ds, []) => some (if negative then -(ofDigits ds : Int) else ofDigits ds)
      | _ => none
    else none

def readUnsigned (negative : Bool) (cs : List Char) : Option Binary64 :=
  let (whole, rest) := takeDigits false cs
  let (fraction, rest) :=
    match rest with
    | '.' :: rest => takeDigits false rest
    | rest => ([], rest)
  if whole.isEmpty && fraction.isEmpty then none
  else
    (readExponent rest).map fun e =>
      .ofDecimal negative (ofDigits (whole ++ fraction)) (e - fraction.length)

/-- The floating-point number that a text writes. -/
def readFloat? (s : String) : Option Binary64 :=
  let (negative, cs) := takeSign (plainNumeral s)
  let word := cs.map Char.toLower
  if word = "inf".toList ∨ word = "infinity".toList then some (.infinite negative)
  else if word = "nan".toList then some .nan
  else readUnsigned negative cs

/-- The most digits a whole number may have. -/
def maxDigits : Nat := 4300

/-- Whether a whole number has more digits than that. -/
def isLong (n : Int) : Bool := tenTo maxDigits ≤ n.natAbs

inductive IntFault where
  | malformed
  | tooLong (digits : Nat)
  deriving DecidableEq, Repr

/-- The whole number that a text writes. Digits are counted before what follows them is looked
at, unless that is an underscore. -/
def readInt (s : String) : Except IntFault Int :=
  let (negative, cs) := takeSign (plainNumeral s)
  let (ds, rest) := takeDigits false cs
  if ds.isEmpty ∨ rest.head? = some '_' then .error .malformed
  else if maxDigits < ds.length then .error (.tooLong ds.length)
  else if rest.isEmpty then .ok (if negative then -(ofDigits ds : Int) else ofDigits ds)
  else .error .malformed

end DocumentStore.Decimal
