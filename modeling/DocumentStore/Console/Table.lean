/-
  DocumentStore.Console.Table — tables in frames.

  The first row is the heading, in a heavier frame. A column is as wide as its widest line,
  with a blank on both sides; a cell may have several lines. Where the columns do not fit
  side by side, the widest ones give way until they do. The title stands above the middle of
  the table.
-/

import DocumentStore.Console.Wrap
import DocumentStore.Decimal.Binary64

namespace DocumentStore.Console

abbrev Cell := List (List Char)

structure Table where
  title : List Char
  heading : List Cell
  rows : List (List Cell)

namespace Table

/-- A text as the lines of a cell. -/
def cell (cs : List Char) : Cell := Text.splitAt '\n' cs

/-- The stretches between line ends of any kind. -/
def stretches : List Char → List (List Char)
  | [] => [[]]
  | c :: cs =>
    if Text.isLineEnd c then [] :: stretches cs
    else
      match stretches cs with
      | [] => [[c]]
      | stretch :: rest => (c :: stretch) :: rest

/-- The cells of the widest stretch. -/
def lineWidth (cs : List Char) : Nat := ((stretches cs).map width).foldl max 0

def cellWidth (c : Cell) : Nat := (c.map lineWidth).foldl max 0

/-- The widths that the columns ask for. -/
def widths (t : Table) : List Nat :=
  t.rows.foldl (fun ws row => ws.zipWith max (row.map cellWidth)) (t.heading.map cellWidth)

/-- Takes `excess` cells from the columns of width `widest`, from each of them its share and
`most` at the most. -/
def shrink (widest most : Nat) (excess : Nat) : List Nat → List Nat
  | [] => []
  | w :: ws =>
    if w = widest then
      let share := min most (Decimal.roundDiv excess ((w :: ws).count widest))
      (w - share) :: shrink widest most (excess - share) ws
    else w :: shrink widest most excess ws

/-- How many cells columns of these widths have together. -/
def cells (ws : List Nat) : Nat := ws.foldl (fun n w => n + w) 0

/-- Widths that take `limit` cells together, if they do not yet and if `steps` steps lead
there. In each step the widest columns come down, to the next width if need be. -/
def fit (limit : Nat) : (steps : Nat) → List Nat → List Nat
  | 0, ws => ws
  | steps + 1, ws =>
    let excess := cells ws - limit
    if excess = 0 then ws
    else
      let widest := ws.foldl max 0
      let next := (ws.filter (· ≠ widest)).foldl max 0
      fit limit steps (shrink widest (min excess (widest - next)) excess ws)

/-- The cells of a frame and of the blanks beside the columns. -/
def frameWidth (columns : Nat) : Nat := 3 * columns + 1

/-- The widths of the columns in a table of so many cells at most. -/
def fitted (t : Table) (limit : Nat) : List Nat :=
  let limit := limit - (t.heading.length + 1)
  let ws := t.widths.map fun w => min (w + 2) limit
  (fit limit (cells ws) ws).map (· - 2)

/-- The characters of a frame's line: left end, filling, crossing, right end. -/
structure Edge where
  left : Char
  fill : Char
  cross : Char
  right : Char

def topEdge : Edge := ⟨'┏', '━', '┳', '┓'⟩

def headEdge : Edge := ⟨'┡', '━', '╇', '┩'⟩

def bottomEdge : Edge := ⟨'└', '─', '┴', '┘'⟩

def Edge.line (e : Edge) (ws : List Nat) : List Char :=
  e.left :: Text.join [e.cross] (ws.map fun w => List.replicate (w + 2) e.fill) ++ [e.right]

/-- The text filled up to so many cells, once more if a joiner at its end took a blank. -/
def padRight (w : Nat) (cs : List Char) : List Char :=
  let fill := fun cs : List Char => cs ++ List.replicate (w - width cs) ' '
  fill (fill cs)

/-- The lines of a row between bars. -/
def rowLines (bar : Char) (ws : List Nat) (row : List Cell) : List (List Char) :=
  let row := ws.zipWith (fun w (c : Cell) => c.flatMap (wrapLine .shortened w)) row
  let height := (row.map List.length).foldl max 1
  (List.range height).map fun n =>
    let pieces := ws.zipWith (fun w c => ' ' :: padRight w (c.getD n []) ++ [' ']) row
    bar :: Text.join [bar] pieces ++ [bar]

/-- A line in the middle of so many cells. -/
def centred (w : Nat) (cs : List Char) : List Char :=
  let cs := Text.dropEndWhile Text.isBlank cs
  List.replicate ((w - width cs) / 2) ' ' ++ cs

/-- The lines of the table, of so many cells at most. -/
def lines (t : Table) (limit : Nat) : List (List Char) :=
  let ws := t.fitted limit
  let total := cells ws + frameWidth ws.length
  (wrap .broken total t.title).map (centred total) ++
    topEdge.line ws :: rowLines '┃' ws t.heading ++
    headEdge.line ws :: t.rows.flatMap (rowLines '│' ws) ++ [bottomEdge.line ws]

end Table

end DocumentStore.Console
