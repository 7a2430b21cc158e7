/-
  DocumentStore.Text.Case — letter case by Unicode's full mappings.

  `lower` and `upper` may lengthen a text. A capital sigma lower-cases to the final sigma
  where it ends a word: some cased letter stands before it and none after it, looking past
  the characters that take no part in casing. `fold` is the key under which texts that
  differ in case only are equal.
-/

import DocumentStore.Text.CaseTable

namespace DocumentStore.Text

def isAscii (c : Char) : Bool := c.toNat < 128

def isCased (c : Char) : Bool := casedRanges.has c.toNat

def isCaseIgnorable (c : Char) : Bool := caseIgnorableRanges.has c.toNat

def lowerChar (c : Char) : List Char :=
  if isAscii c then [c.toLower]
  else if c = 'İ' then ['i', '\u0307']
  else [((lowerRuns.image? c.toNat).map Char.ofNat).getD c]

/-- The image of `c` in the table of long images, else in the runs, else `c` itself. -/
def mapChar (runs : Runs) (long : Array (Nat × List Nat)) (c : Char) : List Char :=
  match long.find? fun e => e.1 == c.toNat with
  | some (_, image) => image.map Char.ofNat
  | none => [((runs.image? c.toNat).map Char.ofNat).getD c]

def upperChar (c : Char) : List Char :=
  if isAscii c then [c.toUpper] else mapChar upperRuns upperLong c

def foldChar (c : Char) : List Char :=
  if isAscii c then [c.toLower] else mapChar foldRuns foldLong c

/-- Whether the first character that is not case-ignorable is cased. -/
def meetsCased (cs : List Char) : Bool :=
  match cs.dropWhile isCaseIgnorable with
  | [] => false
  | c :: _ => isCased c

/-- Lower case of `cs`, with `before` the characters in front of it, nearest first. -/
def lowerFrom (before : List Char) : List Char → List Char
  | [] => []
  | c :: cs =>
    (if c = 'Σ' then [if meetsCased before && !meetsCased cs then 'ς' else 'σ'] else lowerChar c) ++
      lowerFrom (c :: before) cs

def lowerChars (cs : List Char) : List Char := lowerFrom [] cs

def upperChars (cs : List Char) : List Char := cs.flatMap upperChar

def foldChars (cs : List Char) : List Char := cs.flatMap foldChar

def lower (s : String) : String := String.ofList (lowerChars s.toList)

def upper (s : String) : String := String.ofList (upperChars s.toList)

/-- The key under which texts that differ in letter case only are equal. -/
def fold (s : String) : String := String.ofList (foldChars s.toList)

end DocumentStore.Text
