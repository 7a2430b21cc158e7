/-
  DocumentStore.Text.Surrogate — surrogates that stand alone.

  A surrogate is half a character of UTF-16 and no character itself, but an escape can write
  one without its other half. In a text the private-use character that lies `surrogateShift`
  above a surrogate stands for it. `codeOf` is the number of what a character stands for; texts
  are ordered by these numbers. UTF-8 has no octets for a surrogate.

  The private-use characters from U+10A800 to U+10AFFF are thereby taken: none of them stands
  for itself, and what is said of every text is said of texts without them.
-/

namespace DocumentStore.Text

def isHighSurrogate (n : Nat) : Bool := 0xd800 ≤ n && n < 0xdc00

def isLowSurrogate (n : Nat) : Bool := 0xdc00 ≤ n && n < 0xe000

def isSurrogate (n : Nat) : Bool := 0xd800 ≤ n && n < 0xe000

/-- How far above a surrogate the character that stands for it lies. -/
def surrogateShift : Nat := 0xfd000

/-- The character of a number, or the one that stands for a surrogate. The number of a character
that stands for a surrogate has no character of its own. -/
def charOfCode (n : Nat) : Char :=
  if isSurrogate n then Char.ofNat (n + surrogateShift) else Char.ofNat n

/-- Whether the character stands for a surrogate. -/
def isLone (c : Char) : Bool := isSurrogate (c.toNat - surrogateShift)

/-- The number of what the character stands for. -/
def codeOf (c : Char) : Nat := if isLone c then c.toNat - surrogateShift else c.toNat

def codes (s : String) : List Nat := s.toList.map codeOf

/-- The character that a high and a low surrogate are together. -/
def pairChar (high low : Nat) : Char :=
  Char.ofNat (0x10000 + (high - 0xd800) * 0x400 + (low - 0xdc00))

/-- Whether the text can be written as UTF-8. -/
def isEncodable (cs : List Char) : Bool := !cs.any isLone

/-- Whether the character stands for an octet that is no UTF-8. -/
def isOctetMark (c : Char) : Bool := 0xdc80 ≤ codeOf c && codeOf c ≤ 0xdcff

/-- Whether the text is one of octets, as names of files and variables are. -/
def isOctetText (cs : List Char) : Bool := cs.all fun c => !isLone c || isOctetMark c

end DocumentStore.Text
