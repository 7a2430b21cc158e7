/-
  DocumentStore.Text.Quoted — a text in quotes, for messages that show a value.

  Single quotes are used unless the text holds a single quote and no double one. The
  backslash and the quote in use are escaped, tab, line feed and carriage return have
  letters of their own, and a character without a printed form is shown by its number in
  the shortest of two, four or eight hexadecimal digits.
-/

import DocumentStore.Text.Hexadecimal
import DocumentStore.Text.PrintableTable
import DocumentStore.Text.Surrogate

namespace DocumentStore.Text

def isPrintable (c : Char) : Bool :=
  if c.toNat < 128 then 32 ≤ c.toNat && c.toNat < 127 else !unprintableRanges.has c.toNat

/-- A character by its number. -/
def escapedChar (c : Char) : List Char :=
  let n := codeOf c
  if n < 0x100 then '\\' :: 'x' :: hex 2 n
  else if n < 0x10000 then '\\' :: 'u' :: hex 4 n
  else '\\' :: 'U' :: hex 8 n

def quotedChar (quote c : Char) : List Char :=
  if c = quote ∨ c = '\\' then ['\\', c]
  else if c = '\t' then ['\\', 't']
  else if c = '\n' then ['\\', 'n']
  else if c = '\r' then ['\\', 'r']
  else if isPrintable c then [c]
  else escapedChar c

def singleQuote : Char := Char.ofNat 39

def quotedChars (cs : List Char) : List Char :=
  let quote := if cs.contains singleQuote && !cs.contains '"' then '"' else singleQuote
  quote :: cs.flatMap (quotedChar quote) ++ [quote]

def quoted (s : String) : String := String.ofList (quotedChars s.toList)

end DocumentStore.Text
