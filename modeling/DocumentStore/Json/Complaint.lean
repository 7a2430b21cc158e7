/-
  DocumentStore.Json.Complaint — what is said about a text that is not JSON.
-/

import DocumentStore.Failure
import DocumentStore.Json.Read
import DocumentStore.Text.Place

namespace DocumentStore.Json

def Flaw.words : Flaw → String
  | .value => "Expecting value"
  | .name => "Expecting property name enclosed in double quotes"
  | .colon => "Expecting ':' delimiter"
  | .comma => "Expecting ',' delimiter"
  | .unclosedText => "Unterminated string starting at"
  | .control => "Invalid control character at"
  | .escape => "Invalid \\escape"
  | .unit => "Invalid \\uXXXX escape"
  | .extra => "Extra data"
  | .byteOrderMark => "Unexpected UTF-8 BOM (decode using utf-8-sig)"

/-- A flaw with its place in the text, of which `left` characters are left there. -/
def Flaw.complaint (flaw : Flaw) (cs : List Char) (left : Nat) : String :=
  let n := cs.length - left
  flaw.words ++ ": line " ++ Decimal.intText (Text.lineOf cs n) ++ " column " ++
    Decimal.intText (Text.columnOf cs n) ++ " (char " ++ Decimal.intText n ++ ")"

def Excess.failure : Excess → Failure
  | .digits n => .value (.tooManyDigits n)
  | .depth .list => .nesting .jsonList
  | .depth .object => .nesting .jsonObject

end DocumentStore.Json
