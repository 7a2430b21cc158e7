/-
  DocumentStore.Query.Order — sorting records by fields.

  Two numbers are ordered by value, any other two values by their texts: a text is itself,
  null is empty, anything else is its JSON. Two values of which one has no JSON text, being
  too long a number or nested too deep, do not compare unless both are numbers. Records are
  sorted once per listed field, from the last to the first, and every pass keeps the order of
  records that it does not tell apart; so the first-listed field dominates.

  A pass fails where two records that it compares do not compare. Which records those are is
  the sort's own, and so is the order where a column mixes numbers with other values, for then
  the comparison need not be transitive. Neither is followed here.
-/

import DocumentStore.Json.Write
import DocumentStore.Text.Blank
import DocumentStore.Text.Case
import DocumentStore.Text.Split
import DocumentStore.Value.Compare

namespace DocumentStore.Query

structure SortKey where
  field : String
  descending : Bool
  deriving DecidableEq, Repr

/-- One criterion: a field name, and `desc` behind it in any letter case to sort downwards. -/
def SortKey.parse? (cs : List Char) : Option SortKey :=
  match Text.words cs with
  | [] => none
  | [field] => some ⟨String.ofList field, false⟩
  | field :: word :: _ =>
    some ⟨String.ofList field, Text.lowerChars word == ['d', 'e', 's', 'c']⟩

/-- The criteria between commas; empty ones are left out. -/
def SortKey.parseList (text : String) : List SortKey :=
  (Text.splitAt ',' text.toList).filterMap SortKey.parse?

/-- The text by which a value is ordered and told apart from others. -/
def keyText : Value → Except Failure String
  | .null => .ok ""
  | .text s => .ok s
  | v => Json.writeOut v

def compareValues (a b : Value) : Except Failure Ordering :=
  match a.number?, b.number? with
  | some m, some n => .ok ((m.compare? n).getD .eq)
  | _, _ =>
    match keyText a, keyText b with
    | .ok s, .ok t => .ok (Value.compareTexts s t)
    | .error f, _ => .error f
    | .ok _, .error f => .error f

def SortKey.compare (key : SortKey) (a b : Record) : Except Failure Ordering :=
  (compareValues (a.value key.field) (b.value key.field)).map fun o =>
    if key.descending then o.swap else o

/-- A record put into sorted ones, before the first that does not have to come before it. -/
def SortKey.insert (key : SortKey) (record : Record) : List Record → Except Failure (List Record)
  | [] => .ok [record]
  | first :: rest =>
    match key.compare record first with
    | .error f => .error f
    | .ok o =>
      if o.isLE then .ok (record :: first :: rest) else (key.insert record rest).map (first :: ·)

/-- One pass: records sorted by one key, keeping the order of those it does not tell apart. It does
not follow a column that mixes numbers with other values, nor which two records are compared. -/
def SortKey.pass (key : SortKey) : List Record → Except Failure (List Record)
  | [] => .ok []
  | record :: rest =>
    match key.pass rest with
    | .error f => .error f
    | .ok sorted => key.insert record sorted

/-- The passes, that of the last key first. -/
def sortRecords : List SortKey → List Record → Except Failure (List Record)
  | [], records => .ok records
  | key :: keys, records =>
    match sortRecords keys records with
    | .error f => .error f
    | .ok sorted => key.pass sorted

end DocumentStore.Query
