/-
  DocumentStore.Text.Place — where in a text something is.

  Lines and columns are counted from one, characters from none; a line ends with its line
  feed.
-/

namespace DocumentStore.Text

/-- The line on which the `n`th character of a text stands. -/
def lineOf (cs : List Char) (n : Nat) : Nat := (cs.take n).count '\n' + 1

/-- The column in which the `n`th character of a text stands. -/
def columnOf (cs : List Char) (n : Nat) : Nat :=
  ((cs.take n).reverse.takeWhile (· ≠ '\n')).length + 1

end DocumentStore.Text
