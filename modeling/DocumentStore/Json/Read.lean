/-
  DocumentStore.Json.Read — reading JSON text.

  Blanks are space, tab, line feed and carriage return. Texts hold no raw control
  characters; a pair of surrogate escapes is one character, a surrogate without its other half
  stands alone. A number with a point or an exponent is floating-point, any other an integer;
  `NaN`, `Infinity` and `-Infinity` are numbers too. Of equally named members the last value
  stays, in the place of the first.

  An integer of more than 4300 digits is a fault of its own, and so are lists and objects
  nested too deep.
-/

import DocumentStore.Decimal.Numeral
import DocumentStore.Text.Hexadecimal
import DocumentStore.Text.Surrogate
import DocumentStore.Text.Word
import DocumentStore.Value.Basic

namespace DocumentStore.Json

open DocumentStore.Decimal

/-- What is wrong where a text stops being JSON. -/
inductive Flaw where
  | value
  | name
  | colon
  | comma
  | unclosedText
  | control
  | escape
  | unit
  | extra
  | byteOrderMark
  deriving DecidableEq, Repr

/-- What may stand one inside the other. -/
inductive Nest where
  | list
  | object
  deriving DecidableEq, Repr

/-- What there may be too much of. -/
inductive Excess where
  | digits (count : Nat)
  | depth (innermost : Nest)
  deriving DecidableEq, Repr

inductive Fault where
  /-- The text is not JSON; `left` characters are left from where it shows. -/
  | malformed (flaw : Flaw) (left : Nat)
  | excess (what : Excess)
  deriving DecidableEq, Repr

abbrev Reading (α : Type) := Except Fault (α × List Char)

def isSpace (c : Char) : Bool := c == ' ' || c == '\t' || c == '\n' || c == '\r'

def skipSpace (cs : List Char) : List Char := cs.dropWhile isSpace

/-- The number that four hexadecimal digits write. -/
def unitValue? (a b c d : Char) : Option Nat :=
  match Text.hexValue? a, Text.hexValue? b, Text.hexValue? c, Text.hexValue? d with
  | some a, some b, some c, some d => some (((a * 16 + b) * 16 + c) * 16 + d)
  | _, _, _, _ => none

/-- The character that a letter after a backslash stands for. -/
def escapeLetter? (c : Char) : Option Char :=
  if c = '"' ∨ c = '\\' ∨ c = '/' then some c
  else if c = 'b' then some '\x08'
  else if c = 'f' then some '\x0c'
  else if c = 'n' then some '\n'
  else if c = 'r' then some '\r'
  else if c = 't' then some '\t'
  else none

def flawed {α : Type} (flaw : Flaw) (left : Nat) : Except Fault α := .error (.malformed flaw left)

/-- A text after its opening quote; `high` is a high surrogate that came just before. -/
def readTextFrom (high : Option Nat) : List Char → Reading (List Char)
  | '\\' :: 'u' :: a :: b :: c :: d :: cs =>
    match unitValue? a b c d with
    | none => flawed .unit (cs.length + 5)
    | some n =>
      if cs.isEmpty then flawed .unit 5
      else
        match high with
        | some h =>
          if Text.isLowSurrogate n then
            (readTextFrom none cs).map fun (t, r) => (Text.pairChar h n :: t, r)
          else if Text.isHighSurrogate n then
            (readTextFrom (some n) cs).map fun (t, r) => (Text.charOfCode h :: t, r)
          else
            (readTextFrom none cs).map fun (t, r) =>
              (Text.charOfCode h :: Text.charOfCode n :: t, r)
        | none =>
          if Text.isHighSurrogate n then readTextFrom (some n) cs
          else (readTextFrom none cs).map fun (t, r) => (Text.charOfCode n :: t, r)
  | cs =>
    let lone : List Char := (high.map Text.charOfCode).toList
    match cs with
    | [] => flawed .unclosedText 0
    | '"' :: cs => .ok (lone, cs)
    | '\\' :: c :: cs =>
      match escapeLetter? c with
      | none => if c = 'u' then flawed .unit (cs.length + 1) else flawed .escape (cs.length + 2)
      | some e => (readTextFrom none cs).map fun (t, r) => (lone ++ e :: t, r)
    | c :: cs =>
      if c = '\\' then flawed .unclosedText 0
      else if c.toNat < 32 then flawed .control (cs.length + 1)
      else (readTextFrom none cs).map fun (t, r) => (lone ++ c :: t, r)

/-- A text after its opening quote. If it has no closing one, the opening one is the place of
the fault. -/
def readText (cs : List Char) : Reading (List Char) :=
  match readTextFrom none cs with
  | .error (.malformed .unclosedText _) => flawed .unclosedText (cs.length + 1)
  | r => r

/-- The plain digits at the start of a text. -/
def takePlainDigits (cs : List Char) : List Nat × List Char :=
  ((cs.takeWhile Text.isAsciiDigit).map fun c => c.toNat - 48, cs.dropWhile Text.isAsciiDigit)

/-- The digits after a point, if a digit follows it. -/
def takeFraction : List Char → Option (List Nat × List Char)
  | '.' :: cs =>
    match takePlainDigits cs with
    | ([], _) => none
    | found => some found
  | _ => none

/-- The exponent after the letter for it, if digits follow. -/
def takeExponent : List Char → Option (Int × List Char)
  | c :: cs =>
    if c = 'e' ∨ c = 'E' then
      let (negative, cs) := takeSign cs
      match takePlainDigits cs with
      | ([], _) => none
      | (ds, rest) => some (if negative then -(Text.ofDigits ds : Int) else Text.ofDigits ds, rest)
    else none
  | [] => none

/-- A number after its minus sign, if it has one; a leading zero stands alone. -/
def readNumber (negative : Bool) (cs : List Char) : Reading Value :=
  let (whole, rest) :=
    match cs with
    | '0' :: rest => ([0], rest)
    | cs => takePlainDigits cs
  if whole.isEmpty then flawed .value (cs.length + if negative then 1 else 0)
  else
    let fraction := takeFraction rest
    let rest := match fraction with | some (_, r) => r | none => rest
    let exponent := takeExponent rest
    let rest := match exponent with | some (_, r) => r | none => rest
    match fraction, exponent with
    | none, none =>
      if maxDigits < whole.length then .error (.excess (.digits whole.length))
      else
        let n : Int := Text.ofDigits whole
        .ok (.int (if negative then -n else n), rest)
    | _, _ =>
      let ds := match fraction with | some (ds, _) => ds | none => []
      let e := match exponent with | some (e, _) => e | none => 0
      .ok (.float (.ofDecimal negative (Text.ofDigits (whole ++ ds)) (e - ds.length)), rest)

/-- A value that is a word or a number. -/
def readPlain (cs : List Char) : Reading Value :=
  match cs with
  | 'n' :: 'u' :: 'l' :: 'l' :: rest => .ok (.null, rest)
  | 't' :: 'r' :: 'u' :: 'e' :: rest => .ok (.bool true, rest)
  | 'f' :: 'a' :: 'l' :: 's' :: 'e' :: rest => .ok (.bool false, rest)
  | 'N' :: 'a' :: 'N' :: rest => .ok (.float .nan, rest)
  | 'I' :: 'n' :: 'f' :: 'i' :: 'n' :: 'i' :: 't' :: 'y' :: rest =>
    .ok (.float (.infinite false), rest)
  | '-' :: 'I' :: 'n' :: 'f' :: 'i' :: 'n' :: 'i' :: 't' :: 'y' :: rest =>
    .ok (.float (.infinite true), rest)
  | '-' :: rest => readNumber true rest
  | cs => readNumber false cs

mutual

/-- A value at the start of the text, read in so many steps at most; `room` more lists and
objects may stand one inside the other. -/
def readValue (room : Nat) : (steps : Nat) → List Char → Reading Value
  | 0, cs => flawed .value cs.length
  | steps + 1, cs =>
    match cs with
    | '"' :: cs => (readText cs).map fun (t, r) => (.text (String.ofList t), r)
    | '[' :: cs =>
      match room with
      | 0 => .error (.excess (.depth .list))
      | room + 1 =>
        match skipSpace cs with
        | ']' :: rest => .ok (.list [], rest)
        | cs => (readItems room steps cs).map fun (items, r) => (.list items, r)
    | '{' :: cs =>
      match room with
      | 0 => .error (.excess (.depth .object))
      | room + 1 =>
        match skipSpace cs with
        | '}' :: rest => .ok (.object [], rest)
        | cs => (readMembers room steps cs).map fun (ms, r) => (.object (Keyed.ofList ms), r)
    | cs => readPlain cs

/-- Items up to the closing bracket. -/
def readItems (room : Nat) : (steps : Nat) → List Char → Reading (List Value)
  | 0, cs => flawed .value cs.length
  | steps + 1, cs =>
    match readValue room steps cs with
    | .error e => .error e
    | .ok (v, rest) =>
      match skipSpace rest with
      | ']' :: rest => .ok ([v], rest)
      | ',' :: rest => (readItems room steps (skipSpace rest)).map fun (vs, r) => (v :: vs, r)
      | rest => flawed .comma rest.length

/-- Members up to the closing brace. -/
def readMembers (room : Nat) : (steps : Nat) → List Char → Reading (List (String × Value))
  | 0, cs => flawed .name cs.length
  | steps + 1, cs =>
    match cs with
    | '"' :: cs =>
      match readText cs with
      | .error e => .error e
      | .ok (name, rest) =>
        match skipSpace rest with
        | ':' :: rest =>
          match readValue room steps (skipSpace rest) with
          | .error e => .error e
          | .ok (v, rest) =>
            let member := (String.ofList name, v)
            match skipSpace rest with
            | '}' :: rest => .ok ([member], rest)
            | ',' :: rest =>
              (readMembers room steps (skipSpace rest)).map fun (ms, r) => (member :: ms, r)
            | rest => flawed .comma rest.length
        | rest => flawed .colon rest.length
    | cs => flawed .name cs.length

end

def byteOrderMark : Char := '\ufeff'

/-- The one value that the whole text writes. Each step reads a character or leads to one that
does, so twice as many steps as characters are enough. -/
def readChars (cs : List Char) : Except Fault Value :=
  if cs.head? = some byteOrderMark then flawed .byteOrderMark cs.length
  else
    match readValue maxNesting (2 * cs.length + 1) (skipSpace cs) with
    | .error e => .error e
    | .ok (v, rest) =>
      match skipSpace rest with
      | [] => .ok v
      | rest => flawed .extra rest.length

def read (s : String) : Except Fault Value := readChars s.toList

end DocumentStore.Json
