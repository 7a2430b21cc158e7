/-
  DocumentStore.Json.Write — a value as JSON text.

  The text is on one line and holds only the characters from space to tilde: quote,
  backslash and the five control characters with letters of their own are escaped by a
  letter, everything else outside that range by its UTF-16 units. A comma and a colon are
  followed by one space. Infinities and not-a-number are written as words.

  `write` is the text of any value; `writeOut` fails where the writer does, at a whole number of
  too many digits and where lists and objects nest too deep.
-/

import DocumentStore.Failure

namespace DocumentStore.Json

open DocumentStore.Decimal

def escapeUnit (n : Nat) : List Char := '\\' :: 'u' :: Text.hex 4 n

def escapeChar (c : Char) : List Char :=
  if c = '"' ∨ c = '\\' then ['\\', c]
  else if c = '\n' then ['\\', 'n']
  else if c = '\r' then ['\\', 'r']
  else if c = '\t' then ['\\', 't']
  else if c = '\x08' then ['\\', 'b']
  else if c = '\x0c' then ['\\', 'f']
  else if ' ' ≤ c ∧ c ≤ '~' then [c]
  else
    let n := Text.codeOf c
    if n < 0x10000 then escapeUnit n
    else
      escapeUnit (0xd800 + (n - 0x10000) / 0x400) ++ escapeUnit (0xdc00 + (n - 0x10000) % 0x400)

def writeText (s : String) : List Char := '"' :: s.toList.flatMap escapeChar ++ ['"']

def writeFloat (x : Binary64) : List Char := (x.text "Infinity" "NaN").toList

mutual

def writeChars : Value → List Char
  | .null => ['n', 'u', 'l', 'l']
  | .bool true => ['t', 'r', 'u', 'e']
  | .bool false => ['f', 'a', 'l', 's', 'e']
  | .int n => intChars n
  | .float x => writeFloat x
  | .text s => writeText s
  | .list [] => ['[', ']']
  | .list (v :: vs) => '[' :: writeChars v ++ writeItems vs
  | .object [] => ['{', '}']
  | .object ((n, v) :: ms) => '{' :: writeText n ++ [':', ' '] ++ writeChars v ++ writeMembers ms

/-- The items after the first, and the closing bracket. -/
def writeItems : List Value → List Char
  | [] => [']']
  | v :: vs => ',' :: ' ' :: writeChars v ++ writeItems vs

/-- The members after the first, and the closing brace. -/
def writeMembers : List (String × Value) → List Char
  | [] => ['}']
  | (n, v) :: ms => ',' :: ' ' :: writeText n ++ [':', ' '] ++ writeChars v ++ writeMembers ms

end

def write (v : Value) : String := String.ofList (writeChars v)

def writeOut (v : Value) : Except Failure String :=
  match v.unwritable? with
  | none => .ok (write v)
  | some u => .error (u.failure .json)

end DocumentStore.Json
