/-
  DocumentStore.Toml.Scalar — numbers in TOML.

  A whole number is decimal with a sign or without, or hexadecimal, octal or binary. A
  fraction or an exponent makes it floating-point. Single underscores may stand between
  digits.
-/

import DocumentStore.Decimal.Numeral
import DocumentStore.Toml.Text

namespace DocumentStore.Toml

open DocumentStore.Decimal

/-- Digits of a base with single underscores between them; `mid` says that a digit came last. -/
def takeBaseDigits (base : Nat) (mid : Bool) : List Char → List Nat × List Char
  | [] => ([], [])
  | c :: cs =>
    match (Text.hexValue? c).filter (· < base) with
    | some d =>
      let (ds, rest) := takeBaseDigits base true cs
      (d :: ds, rest)
    | none =>
      if c = '_' ∧ mid then
        match takeBaseDigits base false cs with
        | ([], _) => ([], c :: cs)
        | found => found
      else ([], c :: cs)

def ofBaseDigits (base : Nat) (ds : List Nat) : Nat := ds.foldl (fun n d => n * base + d) 0

/-- A number whose base is marked, behind the zero. -/
def readMarked? (cs : List Char) : Option (Draft × List Char) :=
  let read := fun (base : Nat) (rest : List Char) =>
    match takeBaseDigits base false rest with
    | ([], _) => none
    | (ds, rest) => some (Draft.int (ofBaseDigits base ds), rest)
  match cs with
  | 'x' :: rest => read 16 rest
  | 'o' :: rest => read 8 rest
  | 'b' :: rest => read 2 rest
  | _ => none

/-- The digits in front of a point; a leading zero stands alone. -/
def takeWhole (cs : List Char) : List Nat × List Char :=
  match cs with
  | '0' :: rest => ([0], rest)
  | cs => takeBaseDigits 10 false cs

def takeFraction? (cs : List Char) : Option (List Nat × List Char) :=
  match cs with
  | '.' :: rest =>
    match takeBaseDigits 10 false rest with
    | ([], _) => none
    | found => some found
  | _ => none

def takeExponent? (cs : List Char) : Option (Int × List Char) :=
  match cs with
  | c :: rest =>
    if c = 'e' ∨ c = 'E' then
      let (negative, rest) := takeSign rest
      match takeBaseDigits 10 false rest with
      | ([], _) => none
      | (ds, rest) =>
        some (if negative then -(Text.ofDigits ds : Int) else Text.ofDigits ds, rest)
    else none
  | [] => none

/-- A decimal number, if there is one. -/
def readDecimal? (cs : List Char) : Option (Reading Draft) :=
  let (negative, rest) := takeSign cs
  match takeWhole rest with
  | ([], _) => none
  | (whole, rest) =>
    let fraction := takeFraction? rest
    let rest := match fraction with | some (_, r) => r | none => rest
    let exponent := takeExponent? rest
    let rest := match exponent with | some (_, r) => r | none => rest
    match fraction, exponent with
    | none, none =>
      if maxDigits < whole.length then some (.error (.tooLong whole.length))
      else
        let n : Int := Text.ofDigits whole
        some (.ok (.int (if negative then -n else n), rest))
    | _, _ =>
      let ds := match fraction with | some (ds, _) => ds | none => []
      let e := match exponent with | some (e, _) => e | none => 0
      some (.ok (.float (.ofDecimal negative (Text.ofDigits (whole ++ ds)) (e - ds.length)), rest))

def readNumber? (cs : List Char) : Option (Reading Draft) :=
  match cs with
  | '0' :: rest =>
    match readMarked? rest with
    | some found => some (.ok found)
    | none => readDecimal? cs
  | cs => readDecimal? cs

/-- An infinity or not-a-number, if there is one. -/
def readSpecial? (cs : List Char) : Option (Draft × List Char) :=
  let (negative, rest) := takeSign cs
  if "inf".toList.isPrefixOf rest then some (.float (.infinite negative), rest.drop 3)
  else if "nan".toList.isPrefixOf rest then some (.float .nan, rest.drop 3)
  else none

end DocumentStore.Toml
