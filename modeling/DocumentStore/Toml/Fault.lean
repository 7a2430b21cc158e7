/-
  DocumentStore.Toml.Fault — why a text is not TOML, and what is said about it.
-/

import DocumentStore.Failure
import DocumentStore.Text.Place

namespace DocumentStore.Toml

/-- The names that lead to a table or value, from the outermost one on. -/
abbrev Key := List String

inductive Flaw where
  | statement
  | lineEnd
  | equals
  | keyPart
  | declaredTwice (key : Key)
  | immutable (key : Key)
  | redefined (key : Key)
  | overwritten
  | tableEnd
  | tableListEnd
  | unclosed (mark : String)
  | strayChar (c : Char)
  | unclosedList
  | unclosedTable
  | duplicate (name : String)
  | escape
  | hexadecimal
  | noCharacter
  | unclosedText
  | illegalChar (c : Char)
  | value
  | date
  deriving DecidableEq, Repr

inductive Fault where
  /-- The text is not TOML; `left` characters are left from where it shows. -/
  | malformed (flaw : Flaw) (left : Nat)
  | tooLong (digits : Nat)
  | tooDeep
  deriving DecidableEq, Repr

/-- What was read, and the text behind it. -/
abbrev Reading (α : Type) := Except Fault (α × List Char)

/-- The fault that shows where the text `rest` is left. -/
def flawed {α : Type} (flaw : Flaw) (rest : List Char) : Except Fault α :=
  .error (.malformed flaw rest.length)

/-- A key in parentheses, its names in quotes. -/
def keyShown (key : Key) : String := (Draft.tuple (key.map .text)).shown

def charShown (c : Char) : String := Text.quoted (String.singleton c)

def Flaw.words : Flaw → String
  | .statement => "Invalid statement"
  | .lineEnd => "Expected newline or end of document after a statement"
  | .equals => "Expected '=' after a key in a key/value pair"
  | .keyPart => "Invalid initial character for a key part"
  | .declaredTwice key => "Cannot declare " ++ keyShown key ++ " twice"
  | .immutable key => "Cannot mutate immutable namespace " ++ keyShown key
  | .redefined key => "Cannot redefine namespace " ++ keyShown key
  | .overwritten => "Cannot overwrite a value"
  | .tableEnd => "Expected ']' at the end of a table declaration"
  | .tableListEnd => "Expected ']]' at the end of an array declaration"
  | .unclosed mark => "Expected " ++ Text.quoted mark
  | .strayChar c => "Found invalid character " ++ charShown c
  | .unclosedList => "Unclosed array"
  | .unclosedTable => "Unclosed inline table"
  | .duplicate name => "Duplicate inline table key " ++ Text.quoted name
  | .escape => "Unescaped '\\' in a string"
  | .hexadecimal => "Invalid hex value"
  | .noCharacter => "Escaped character is not a Unicode scalar value"
  | .unclosedText => "Unterminated string"
  | .illegalChar c => "Illegal character " ++ charShown c
  | .value => "Invalid value"
  | .date => "Invalid date or datetime"

/-- A flaw with its place in the text, of which `left` characters are left there. -/
def Flaw.complaint (flaw : Flaw) (cs : List Char) (left : Nat) : String :=
  let n := cs.length - left
  let place :=
    if left = 0 then "end of document"
    else
      "line " ++ Decimal.intText (Text.lineOf cs n) ++ ", column " ++
        Decimal.intText (Text.columnOf cs n)
  flaw.words ++ " (at " ++ place ++ ")"

end DocumentStore.Toml
