/-
  DocumentStore.Query.Clause — one condition on a record: a field, an operator, a literal.

  The operator of a clause is the first one after at least one character of the field and
  with something behind it; where several fit the same place the longer comes first. The
  words `like` and `in` stand between single spaces and may be in any letter case. The
  literal is JSON; behind `in` it is a list, written in round brackets.

  A letter meets a character whose own lower or upper case is that letter's, so the words
  are also met by a few characters that do not lower-case to them (a dotless i, say); the
  word is then found and refused.
-/

import DocumentStore.Json.Complaint
import DocumentStore.Text.Case
import DocumentStore.Text.Split
import DocumentStore.Value.Compare

namespace DocumentStore.Query

inductive Operator where
  | atMost
  | below
  | atLeast
  | above
  | equal
  | like
  | among
  deriving DecidableEq, Repr

namespace Operator

def text : Operator → String
  | .atMost => "<="
  | .below => "<"
  | .atLeast => ">="
  | .above => ">"
  | .equal => "="
  | .like => " like "
  | .among => " in "

/-- All operators, the longer before its own beginning. -/
def all : List Operator := [.atMost, .below, .atLeast, .above, .equal, .like, .among]

end Operator

/-! ## Words in any letter case -/

/-- Whether `c` is the lower-case letter or sign `p` in some letter case. -/
def meets (p c : Char) : Bool :=
  c.toLower == p || (p == 'i' && (c == 'İ' || c == 'ı')) || (p == 'k' && c == '\u212a')

/-- `word` as written at the start of `cs`, and the rest. -/
def takeWord (word cs : List Char) : Option (List Char × List Char) :=
  match word, cs with
  | [], cs => some ([], cs)
  | _ :: _, [] => none
  | p :: ps, c :: cs =>
    if meets p c then (takeWord ps cs).map fun (written, rest) => (c :: written, rest) else none

/-! ## Reading -/

structure Clause where
  field : String
  operator : Operator
  literal : Value
  deriving DecidableEq, Repr

/-- A clause cut at its operator, which stands as written. -/
structure ClauseParts where
  field : List Char
  operator : Operator
  written : List Char
  literal : List Char

/-- The operator at the start of `cs` with something behind it. -/
def operatorHere (cs : List Char) : Option (Operator × List Char × List Char) :=
  Operator.all.findSome? fun op =>
    match takeWord op.text.toList cs with
    | some (written, r :: rest) => some (op, written, r :: rest)
    | _ => none

def splitClause : List Char → Option ClauseParts
  | [] => none
  | c :: cs =>
    match operatorHere cs with
    | some (op, written, rest) => some ⟨[c], op, written, rest⟩
    | none => (splitClause cs).map fun parts => { parts with field := c :: parts.field }

/-- What stands in the first round brackets that hold at least one character. -/
def bracketed (cs : List Char) : Option (List Char) :=
  match Text.cut '(' cs with
  | some (_, c :: rest) => (Text.cut ')' rest).map fun (inner, _) => c :: inner
  | _ => none

def malformedWhere : Failure := .request .whereForm

def readLiteral (cs : List Char) : Except Failure Value :=
  match Json.readChars cs with
  | .ok v => .ok v
  | .error (.malformed ..) => .error malformedWhere
  | .error (.excess e) => .error e.failure

/-- The literal of an operator: a list behind `in`, a text behind `like`. -/
def readOperand (op : Operator) (cs : List Char) : Except Failure Value :=
  match op with
  | .among =>
    match bracketed cs with
    | some inner => readLiteral ('[' :: inner ++ [']'])
    | none => .error malformedWhere
  | .like =>
    match readLiteral cs with
    | .ok (.text s) => .ok (.text s)
    | .ok _ => .error malformedWhere
    | .error e => .error e
  | _ => readLiteral cs

def Clause.ofParts (parts : ClauseParts) : Except Failure Clause :=
  let field := Text.trim parts.field
  let word := Text.lowerChars parts.written
  if field.isEmpty then .error malformedWhere
  else if word ≠ parts.operator.text.toList then
    .error (.value (.operator (String.ofList word)))
  else
    (readOperand parts.operator (Text.trim parts.literal)).map fun literal =>
      ⟨String.ofList field, parts.operator, literal⟩

def Clause.parse (cs : List Char) : Except Failure Clause :=
  match splitClause (Text.trim cs) with
  | none => .error malformedWhere
  | some parts => Clause.ofParts parts

/-! ## Meaning -/

/-- Whether the text `actual` holds the text `part`, letter case aside. -/
def holdsText (actual part : Value) : Bool :=
  match actual, part with
  | .text a, .text p => Text.contains (Text.lowerChars p.toList) (Text.lowerChars a.toList)
  | _, _ => false

def isAmong (actual list : Value) : Bool :=
  match list with
  | .list items => items.any fun item => actual.strictlySame item
  | _ => false

/-- Whether two values compare, and in a way that `accept` accepts. -/
def comparesAs (accept : Ordering → Bool) (a b : Value) : Bool :=
  match a.compareLoosely b with
  | some (some o) => accept o
  | _ => false

def Operator.holds (op : Operator) (actual literal : Value) : Bool :=
  match op with
  | .equal => actual.looselySame literal
  | .like => holdsText actual literal
  | .among => isAmong actual literal
  | .atMost => comparesAs (·.isLE) actual literal
  | .below => comparesAs (·.isLT) actual literal
  | .atLeast => comparesAs (·.isGE) actual literal
  | .above => comparesAs (·.isGT) actual literal

def Clause.accepts (clause : Clause) (record : Record) : Bool :=
  clause.operator.holds (record.value clause.field) clause.literal

end DocumentStore.Query
