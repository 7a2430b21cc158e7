/-
  DocumentStore.Named — values under keys, in the order in which the keys came.

  The members of an object, the fields of a record, the records of a collection and the
  collections of a store are all such lists; mostly the keys are names. `put` under a key
  that is there replaces the value in its place, under a new key it goes last; `erase` leaves
  the others in order. Keys that are equal are one, and the first of them stays.
-/

namespace DocumentStore

abbrev Keyed (κ α : Type) := List (κ × α)

abbrev Named (α : Type) := Keyed String α

namespace Keyed

variable {κ α : Type} [BEq κ]

def get? (fields : Keyed κ α) (key : κ) : Option α :=
  match fields with
  | [] => none
  | (k, v) :: rest => if k == key then some v else get? rest key

def has (fields : Keyed κ α) (key : κ) : Bool := (get? fields key).isSome

def put (fields : Keyed κ α) (key : κ) (value : α) : Keyed κ α :=
  match fields with
  | [] => [(key, value)]
  | (k, v) :: rest => if k == key then (k, value) :: rest else (k, v) :: put rest key value

def erase (fields : Keyed κ α) (key : κ) : Keyed κ α := fields.filter fun f => !(f.1 == key)

/-- `base` with every field of `changes` put into it, in order. -/
def overlay (base changes : Keyed κ α) : Keyed κ α :=
  changes.foldl (fun acc f => put acc f.1 f.2) base

/-- The fields as they stand after being put one by one, so each key once. -/
def ofList (fields : List (κ × α)) : Keyed κ α := overlay [] fields

omit [BEq κ]

def names (fields : Keyed κ α) : List κ := fields.map (·.1)

/-- `fields` without those whose key satisfies `p`. -/
def drop (p : κ → Bool) (fields : Keyed κ α) : Keyed κ α := fields.filter fun f => !p f.1

end Keyed

end DocumentStore
