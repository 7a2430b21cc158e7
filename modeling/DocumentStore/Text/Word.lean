/-
  DocumentStore.Text.Word — word characters: letters, digits and numerals of any script,
  and the underscore.
-/

import DocumentStore.Text.WordTable

namespace DocumentStore.Text

def isAsciiLetter (c : Char) : Bool := ('a' ≤ c && c ≤ 'z') || ('A' ≤ c && c ≤ 'Z')

def isAsciiDigit (c : Char) : Bool := '0' ≤ c && c ≤ '9'

def isWordChar (c : Char) : Bool :=
  isAsciiLetter c || isAsciiDigit c || c == '_' || (128 ≤ c.toNat && wordRanges.has c.toNat)

/-- A plain name: a Latin letter or underscore, then word characters. -/
def isName : List Char → Bool
  | [] => false
  | c :: cs => (isAsciiLetter c || c == '_') && cs.all isWordChar

end DocumentStore.Text
