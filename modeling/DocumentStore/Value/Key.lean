/-
  DocumentStore.Value.Key — what the members of a draft may be named by.

  A name is a text, mostly. It may also be another value that never changes: null, a truth
  value, a number, or a tuple of such. Keys are equal as values are, so one, one point zero and
  true are one key; not-a-number equals no key, not even itself.
-/

import DocumentStore.Decimal.Binary64

namespace DocumentStore

open DocumentStore.Decimal

inductive Key where
  | null
  | bool (b : Bool)
  | int (n : Int)
  | float (x : Binary64)
  | text (s : String)
  | tuple (items : List Key)
  | foreign (kind : String)
  deriving Inhabited, Repr

namespace Key

instance : Coe String Key := ⟨.text⟩

/-- The number that a key counts as, truth values being one and zero. -/
def quantity? : Key → Option Number
  | .bool b => some (.int (if b then 1 else 0))
  | .int n => some (.int n)
  | .float x => some (.float x)
  | _ => none

mutual

def same : Key → Key → Bool
  | .null, .null => true
  | .text a, .text b => a == b
  | .tuple xs, .tuple ys => sameItems xs ys
  | a, b =>
    match a.quantity?, b.quantity? with
    | some m, some n => m.sameValue n
    | _, _ => false

def sameItems : List Key → List Key → Bool
  | [], [] => true
  | x :: xs, y :: ys => same x y && sameItems xs ys
  | _, _ => false

end

instance : BEq Key := ⟨same⟩

/-- The word for what kind of value a key is. -/
def kind : Key → String
  | .null => "NoneType"
  | .bool _ => "bool"
  | .int _ => "int"
  | .float _ => "float"
  | .text _ => "str"
  | .tuple _ => "tuple"
  | .foreign kind => kind

end Key

end DocumentStore
