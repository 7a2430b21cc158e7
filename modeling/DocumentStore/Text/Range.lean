/-
  DocumentStore.Text.Range — classes of characters and maps between characters, given by
  tables over code points.

  A class is a list of ranges, ends included; a map is a list of runs, each a range of
  every or every second code point with the image of its first one.
-/

namespace DocumentStore.Text

abbrev Ranges := Array (Nat × Nat)

abbrev Runs := Array (Nat × Nat × Nat × Nat)

def Ranges.has (rs : Ranges) (n : Nat) : Bool :=
  rs.any fun r => r.1 ≤ n && n ≤ r.2

def Runs.image? (rs : Runs) (n : Nat) : Option Nat :=
  (rs.find? fun (lo, hi, step, _) => lo ≤ n && n ≤ hi && (n - lo) % step == 0).map
    fun (lo, _, _, image) => image + (n - lo)

end DocumentStore.Text
