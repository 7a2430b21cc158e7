/-
  DocumentStore.Toml.Document — TOML documents, a statement on a line.

  A statement gives a value to a key of the section that it stands in, or opens a section:
  `[key]` a table, `[[key]]` another table of a list.
-/

import DocumentStore.Toml.Value

namespace DocumentStore.Toml

/-- A document as far as it was read. -/
structure Draught where
  table : Table
  marks : Marks
  /-- The key of the section that is open. -/
  header : Key

def Draught.blank : Draught := ⟨[], .none, []⟩

/-- The result of an operation on tables; a flaw shows where `rest` is left. -/
def placed {α : Type} (rest : List Char) : Except Flaw α → Except Fault α
  | .ok a => .ok a
  | .error flaw => flawed flaw rest

/-- The keys that lead to `key` from a section on, without the section's own. -/
def innerKeys (header : Key) : Key → List Key
  | [] => []
  | [_] => []
  | name :: key => (header ++ [name]) :: innerKeys (header ++ [name]) key

/-- Gives a value to a key of the open section. -/
def Draught.assign (d : Draught) (key : Key) (v : Draft) (rest : List Char) :
    Except Fault Draught :=
  let inner := innerKeys d.header key
  match inner.find? d.marks.isDeclared with
  | some key => flawed (.redefined key) rest
  | none =>
    let whole := d.header ++ key
    if d.marks.isFrozen whole.dropLast then flawed (.immutable whole.dropLast) rest
    else
      (placed rest (putNew true (fun _ => .overwritten) d.table whole v)).map fun table =>
        let marks := d.marks.await inner
        { d with table, marks := if isContainer v then marks.freeze whole else marks }

/-- Opens the section of a table. -/
def Draught.openSection (d : Draught) (key : Key) (rest : List Char) : Except Fault Draught :=
  let marks := d.marks.settle
  if marks.isDeclared key || marks.isFrozen key then flawed (.declaredTwice key) rest
  else
    (placed rest (openTable d.table key)).map fun table => ⟨table, marks.declare key, key⟩

/-- Opens the section of a new table of a list. -/
def Draught.appendSection (d : Draught) (key : Key) (rest : List Char) : Except Fault Draught :=
  let marks := d.marks.settle
  if marks.isFrozen key then flawed (.immutable key) rest
  else
    (placed rest (appendTable d.table key)).map fun table =>
      ⟨table, (marks.clear key).declare key, key⟩

/-- The text behind a mark that has to be there. -/
def expect (mark : List Char) (flaw : Flaw) (cs : List Char) : Except Fault (List Char) :=
  if mark.isPrefixOf cs then .ok (cs.drop mark.length) else flawed flaw cs

/-- The key of a header up to its closing mark, with what it makes of the document. -/
def readHeader (mark : List Char) (flaw : Flaw)
    (enter : Key → List Char → Except Fault Draught) (cs : List Char) : Reading Draught :=
  match readKey (skipBlanks cs) with
  | .error e => .error e
  | .ok (key, rest) =>
    match enter key rest with
    | .error e => .error e
    | .ok d => (expect mark flaw rest).map fun rest => (d, rest)

/-- A statement at the start of a text that is neither blank nor a comment. -/
def readStatement (d : Draught) (cs : List Char) : Reading Draught :=
  match cs with
  | '[' :: '[' :: rest => readHeader [']', ']'] .tableListEnd d.appendSection rest
  | '[' :: rest => readHeader [']'] .tableEnd d.openSection rest
  | c :: _ =>
    if isBareKeyChar c || c == '"' || c == singleQuote then
      match readPair nestingRoom (2 * cs.length + 2) cs with
      | .error e => .error e
      | .ok ((key, v), rest) => (d.assign key v rest).map fun d => (d, rest)
    else flawed .statement cs
  | [] => .ok (d, [])

/-- A line behind its blanks, without comment and line feed. -/
def readLineStart (d : Draught) (cs : List Char) : Reading Draught :=
  match cs with
  | '\n' :: _ => .ok (d, cs)
  | '#' :: _ => .ok (d, cs)
  | cs => readStatement d cs

/-- A line, with its statement and comment if it has them, and its line feed. -/
def readLine (d : Draught) (cs : List Char) : Reading Draught :=
  match readLineStart d (skipBlanks cs) with
  | .error e => .error e
  | .ok (d, rest) =>
    match skipComment (skipBlanks rest) with
    | .error e => .error e
    | .ok [] => .ok (d, [])
    | .ok ('\n' :: rest) => .ok (d, rest)
    | .ok rest => flawed .lineEnd rest

/-- Lines to the end of the text; each takes a character at least. -/
def readLines : (fuel : Nat) → Draught → List Char → Except Fault Draught
  | 0, d, _ => .ok d
  | fuel + 1, d, cs =>
    match readLine d cs with
    | .error e => .error e
    | .ok (d, []) => .ok d
    | .ok (d, rest) => readLines fuel d rest

/-- The text with carriage returns in front of line feeds left out. -/
def dropReturns : List Char → List Char
  | [] => []
  | '\r' :: '\n' :: cs => '\n' :: dropReturns cs
  | c :: cs => c :: dropReturns cs

/-- The table that a whole text writes; carriage returns count as part of line feeds. -/
def readChars (cs : List Char) : Except Fault Table :=
  (readLines (cs.length + 1) .blank cs).map Draught.table

end DocumentStore.Toml
