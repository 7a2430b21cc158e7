/-
  DocumentStore.Value.Basic — the values a store holds: JSON values with integers of any
  size told apart from floating-point numbers, and object members in their order.

  A record is the member list of an object.
-/

import DocumentStore.Named
import DocumentStore.Decimal.Binary64

namespace DocumentStore

open DocumentStore.Decimal

inductive Value where
  | null
  | bool (b : Bool)
  | int (n : Int)
  | float (x : Binary64)
  | text (s : String)
  | list (items : List Value)
  | object (members : List (String × Value))
  deriving Inhabited, Repr

abbrev Record := Named Value

/-- The most lists and objects that may stand one inside the other where a value is read or
written, and the most calls where one is copied. It is the room that the stack of a running
program has left, counted where a handful of calls are under way; under more of them it is
less by as many. -/
def maxNesting : Nat := 980

namespace Value

mutual

def decEq : (a b : Value) → Decidable (a = b)
  | .null, b => by
    cases b with
    | null => exact isTrue rfl
    | _ => exact isFalse (by simp)
  | .bool x, b => by
    cases b with
    | bool y => exact decidable_of_iff (x = y) (by simp)
    | _ => exact isFalse (by simp)
  | .int x, b => by
    cases b with
    | int y => exact decidable_of_iff (x = y) (by simp)
    | _ => exact isFalse (by simp)
  | .float x, b => by
    cases b with
    | float y => exact decidable_of_iff (x = y) (by simp)
    | _ => exact isFalse (by simp)
  | .text x, b => by
    cases b with
    | text y => exact decidable_of_iff (x = y) (by simp)
    | _ => exact isFalse (by simp)
  | .list xs, b => by
    cases b with
    | list ys => exact @decidable_of_iff _ (xs = ys) (by simp) (decEqItems xs ys)
    | _ => exact isFalse (by simp)
  | .object xs, b => by
    cases b with
    | object ys => exact @decidable_of_iff _ (xs = ys) (by simp) (decEqMembers xs ys)
    | _ => exact isFalse (by simp)

def decEqItems : (xs ys : List Value) → Decidable (xs = ys)
  | [], [] => isTrue rfl
  | [], _ :: _ => isFalse (by simp)
  | _ :: _, [] => isFalse (by simp)
  | x :: xs, y :: ys =>
    match decEq x y, decEqItems xs ys with
    | isTrue h, isTrue hs => isTrue (by rw [h, hs])
    | isFalse h, _ => isFalse (by simp [h])
    | _, isFalse hs => isFalse (by simp [hs])

def decEqMembers : (xs ys : List (String × Value)) → Decidable (xs = ys)
  | [], [] => isTrue rfl
  | [], _ :: _ => isFalse (by simp)
  | _ :: _, [] => isFalse (by simp)
  | (n, x) :: xs, (m, y) :: ys =>
    match decEq x y, decEqMembers xs ys with
    | isTrue h, isTrue hs => decidable_of_iff (n = m) (by simp [h, hs])
    | isFalse h, _ => isFalse (by simp [h])
    | _, isFalse hs => isFalse (by simp [hs])

end

instance : DecidableEq Value := decEq

/-- The number a value is; truth values are no numbers. -/
def number? : Value → Option Number
  | .int n => some (.int n)
  | .float x => some (.float x)
  | _ => none

/-- The number a value counts as, truth values being one and zero. -/
def quantity? : Value → Option Number
  | .bool b => some (.int (if b then 1 else 0))
  | v => v.number?

def isNumber (v : Value) : Bool := v.number?.isSome

/-- Everything is true but null, false, zero and what is empty. -/
def truthy : Value → Bool
  | .null => false
  | .bool b => b
  | .int n => n != 0
  | .float x => !x.isZero
  | .text s => !s.isEmpty
  | .list items => !items.isEmpty
  | .object members => !members.isEmpty

end Value

/-- The value of a field, null where the record has none. -/
def Record.value (record : Record) (field : String) : Value :=
  (record.get? field).getD .null

end DocumentStore
