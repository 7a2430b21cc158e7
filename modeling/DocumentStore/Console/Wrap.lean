/-
  DocumentStore.Console.Wrap — texts on lines of limited width.

  A line ends in front of the first word that does not fit; a word that fits on no line is broken
  or shortened, between clusters. Blanks that do not fit are left out. Tabs go to the next
  multiple of eight.
-/

import DocumentStore.Console.Width
import DocumentStore.Text.Blank
import DocumentStore.Text.Split

namespace DocumentStore.Console

def tabStop : Nat := 8

/-- The pieces between tabs as one text, each tab filled up; `column` cells stand in front. -/
def joinTabs (column : Nat) : List (List Char) → List Char
  | [] => []
  | [piece] => piece
  | piece :: rest =>
    let piece := piece ++ [' ']
    let column := column + width piece
    let fill := (tabStop - column % tabStop) % tabStop
    piece ++ List.replicate fill ' ' ++ joinTabs (column + fill) rest

def expandTabs (cs : List Char) : List Char := joinTabs 0 (Text.splitAt '\t' cs)

/-- Words with the blanks behind them; blanks at the start belong to the first one. -/
def spacedWordsFrom (word : List Char) (ended : Bool) : List Char → List (List Char)
  | [] => if word.isEmpty then [] else [word.reverse]
  | c :: cs =>
    if Text.isBlank c then spacedWordsFrom (c :: word) (word.any fun d => !Text.isBlank d) cs
    else if ended then word.reverse :: spacedWordsFrom [c] false cs
    else spacedWordsFrom (c :: word) false cs

/-- A word in pieces of so many cells. -/
def chopFrom (limit : Nat) (piece : List Char) (used : Nat) : List Cluster → List (List Char)
  | [] => [piece]
  | c :: cs =>
    if limit < used + c.cells then piece :: chopFrom limit c.chars c.cells cs
    else chopFrom limit (piece ++ c.chars) (used + c.cells) cs

/-- What happens to a word that fits on no line. -/
inductive Overlong where
  /-- It goes on over several lines. -/
  | broken
  /-- An ellipsis stands for its end. -/
  | shortened
  deriving DecidableEq, Repr

/-- Lines so far, the last one first, and the cells that are used of the last one. -/
structure Lines where
  lines : List (List Char)
  used : Nat

/-- The lines with one more word. -/
def Lines.add (overlong : Overlong) (limit : Nat) (l : Lines) (word : List Char) : Lines :=
  let line := l.lines.headD []
  let earlier := l.lines.tail
  let size := width (Text.dropEndWhile Text.isBlank word)
  if l.used + size ≤ limit then ⟨(line ++ word) :: earlier, l.used + width word⟩
  else
    let earlier := if line.isEmpty then earlier else line :: earlier
    if overlong = .broken ∧ limit < size then
      let pieces := (chopFrom limit [] 0 (clusters word)).reverse
      ⟨pieces ++ earlier, width (pieces.headD [])⟩
    else ⟨word :: earlier, width word⟩

/-- The clusters at the start that fill so many cells at most; a blank stands in for one that
only half fits. -/
def takeCells (limit : Nat) : List Cluster → List Char
  | [] => []
  | c :: cs =>
    if limit = 0 then []
    else if c.cells ≤ limit then c.chars ++ takeCells (limit - c.cells) cs
    else [' ']

/-- A line without what does not fit, blanks first. -/
def crop (overlong : Overlong) (limit : Nat) (line : List Char) : List Char :=
  let blanks := line.length - (Text.dropEndWhile Text.isBlank line).length
  let line := line.take (line.length - min blanks (line.length - limit))
  if width line ≤ limit then line
  else
    match overlong with
    | .broken => takeCells limit (clusters line)
    | .shortened => takeCells (limit - 1) (clusters line) ++ ['…']

/-- A line as lines of limited width. -/
def wrapLine (overlong : Overlong) (limit : Nat) (cs : List Char) : List (List Char) :=
  let words := spacedWordsFrom [] false (expandTabs cs)
  (words.foldl (Lines.add overlong limit) ⟨[[]], 0⟩).lines.reverse.map (crop overlong limit)

/-- A text as lines of limited width. -/
def wrap (overlong : Overlong) (limit : Nat) (cs : List Char) : List (List Char) :=
  (Text.splitAt '\n' cs).flatMap (wrapLine overlong limit)

end DocumentStore.Console
