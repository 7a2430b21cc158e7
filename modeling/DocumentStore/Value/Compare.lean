/-
  DocumentStore.Value.Compare — when two values are equal, and how they compare.

  - `same` is equality of values: numbers by value, truth values counting as one and zero,
    objects whatever the order of their members. Not-a-number equals nothing, but in lists and
    objects, where what is identical is not compared any further, it is the same as itself.
  - `strictlySame` tells kinds apart at the top: a truth value is no number. Inside lists
    and objects it is `same`.
  - `looselySame` reads a text beside a number as a number, if it is one, and lets null
    equal null alone.
  - `compareLoosely` orders numbers by value, texts by code points and, as above, a text
    beside a number; nothing else compares.
-/

import DocumentStore.Decimal.Numeral
import DocumentStore.Text.Surrogate
import DocumentStore.Value.Basic

namespace DocumentStore.Value

open DocumentStore.Decimal

/-- Whether both are not-a-number. -/
def areNan : Value → Value → Bool
  | .float .nan, .float .nan => true
  | _, _ => false

mutual

def same : Value → Value → Bool
  | .null, .null => true
  | .text a, .text b => a == b
  | .list xs, .list ys => sameItems xs ys
  | .object xs, .object ys => xs.length == ys.length && sameMembers xs ys
  | a, b =>
    match a.quantity?, b.quantity? with
    | some m, some n => m.sameValue n
    | _, _ => false

def sameItems : List Value → List Value → Bool
  | [], [] => true
  | x :: xs, y :: ys => (areNan x y || same x y) && sameItems xs ys
  | _, _ => false

/-- Whether each of `xs` has a member of its name and value in `ys`. -/
def sameMembers : List (String × Value) → List (String × Value) → Bool
  | [], _ => true
  | (n, x) :: xs, ys =>
    (match Keyed.get? ys n with
      | some y => areNan x y || same x y
      | none => false) && sameMembers xs ys

end

/-- Sameness of what stands in lists and objects. -/
def sameInside (a b : Value) : Bool := areNan a b || a.same b

def isBool : Value → Bool
  | .bool _ => true
  | _ => false

def strictlySame (a b : Value) : Bool := a.isBool == b.isBool && a.same b

/-- How two texts compare, by code points. -/
def compareTexts (a b : String) : Ordering :=
  if Text.codes a < Text.codes b then .lt else if Text.codes b < Text.codes a then .gt else .eq

/-- How two values compare once one is read as the kind of the other; `none` if they never
compare, `some none` if one is not-a-number. -/
def compareLoosely (a b : Value) : Option (Option Ordering) :=
  match a, b with
  | .text s, .text t => some (some (compareTexts s t))
  | .text s, v =>
    v.number?.bind fun n => (readFloat? s).map fun x => (Number.float x).compare? n
  | v, .text t =>
    v.number?.bind fun n => (readFloat? t).map fun x => n.compare? (.float x)
  | v, w =>
    match v.number?, w.number? with
    | some m, some n => some (m.compare? n)
    | _, _ => none

def looselySame (a b : Value) : Bool :=
  if a = .null ∨ b = .null then a = .null ∧ b = .null
  else
    match compareLoosely a b with
    | some result => result == some .eq
    | none => a.same b

end DocumentStore.Value
