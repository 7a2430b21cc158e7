/-
  DocumentStore.Decimal.Lenient — whole numbers as people write them into settings.

  A plain integer is a minus sign, perhaps, and digits without a zero in front. A text that
  is none is made one by leaving out what adds nothing: blanks around it, a plus sign, zeros in
  front with the underscores among them, a fraction of nothing but zeros, and single
  underscores between digits. Only plain digits count.
-/

import DocumentStore.Decimal.Numeral
import DocumentStore.Text.Split
import DocumentStore.Text.Word

namespace DocumentStore.Decimal.Lenient

/-- The number that a minus sign, perhaps, and digits without a zero in front write. The sign
counts as one of the digits that a number may have at most. -/
def plainInteger? (cs : List Char) : Option Int :=
  let (negative, ds) := match cs with
    | '-' :: ds => (true, ds)
    | ds => (false, ds)
  let padded := ds.head? = some '0' ∧ 1 < ds.length
  if ds.isEmpty ∨ padded ∨ !ds.all Text.isAsciiDigit ∨ maxDigits < cs.length then none
  else
    let n : Int := Text.ofDigits (ds.map fun c => c.toNat - 48)
    some (if negative then -n else n)

/-- The information separators are no blanks here. -/
def isOuterBlank (c : Char) : Bool := Text.isBlank c && !(28 ≤ c.toNat && c.toNat ≤ 31)

def trimOuter (cs : List Char) : List Char :=
  Text.dropEndWhile isOuterBlank (cs.dropWhile isOuterBlank)

/-- The text without a plus sign in front; behind it may be no minus sign. -/
def dropPlus? : List Char → Option (List Char)
  | '+' :: '-' :: _ => none
  | '+' :: cs => some cs
  | cs => some cs

def startsNumber (c : Char) : Bool := ('1' ≤ c ∧ c ≤ '9') ∨ c = '-'

/-- What is left behind zeros and underscores, `last` being the last of them: one of them stays in
front of a point and at the end of the text. -/
def behindZeros? (last : Char) : List Char → Option (List Char)
  | [] => some [last]
  | c :: cs =>
    if c = '0' ∨ c = '_' then behindZeros? c cs
    else if startsNumber c then some (c :: cs)
    else if c = '.' then some (last :: c :: cs)
    else none

/-- The text without zeros in front. -/
def dropZeros? : List Char → Option (List Char)
  | '0' :: cs => behindZeros? '0' cs
  | c :: cs => if startsNumber c then some (c :: cs) else none
  | [] => none

/-- The text without zeros in front, a minus sign before them kept. -/
def dropZerosBehindSign? : List Char → Option (List Char)
  | '-' :: cs => (dropZeros? cs).map ('-' :: ·)
  | cs => dropZeros? cs

/-- The text without a fraction of nothing but zeros. -/
def dropFraction (cs : List Char) : List Char :=
  match Text.cut '.' cs with
  | some (whole, zeros) => if !zeros.isEmpty ∧ zeros.all (· = '0') then whole else cs
  | none => cs

/-- The text without underscores, if every one of them stands alone inside it. -/
def dropUnderscores (cs : List Char) : List Char :=
  if (Text.splitAt '_' cs).any List.isEmpty then cs else cs.filter (· ≠ '_')

def read? (text : String) : Option Int :=
  let cs := text.toList
  match plainInteger? cs with
  | some n => some n
  | none =>
    ((dropPlus? (trimOuter cs)).bind dropZerosBehindSign?).bind fun cs =>
      plainInteger? (dropUnderscores (dropFraction cs))

end DocumentStore.Decimal.Lenient
