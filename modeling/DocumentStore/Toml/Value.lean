/-
  DocumentStore.Toml.Value — values in TOML.

  Values are texts, truth values, numbers, dates and times, lists, which may run over lines
  and hold comments, and tables in line, which may do neither. They are nested in one another
  only so deep.
-/

import DocumentStore.Toml.Moment
import DocumentStore.Toml.Scalar
import DocumentStore.Toml.Table

namespace DocumentStore.Toml

/-- A value that is not made of others. -/
def readScalar (cs : List Char) : Reading Draft :=
  match readText? cs with
  | some r => r.map fun (t, rest) => (.text (String.ofList t), rest)
  | none =>
    if "true".toList.isPrefixOf cs then .ok (.bool true, cs.drop 4)
    else if "false".toList.isPrefixOf cs then .ok (.bool false, cs.drop 5)
    else
      match readMoment? cs with
      | some r => r.map fun (m, rest) => (m.toDraft, rest)
      | none =>
        match readNumber? cs with
        | some r => r
        | none =>
          match readSpecial? cs with
          | some found => .ok found
          | none => flawed .value cs

/-- A table in line as far as it was read. -/
structure Inline where
  table : Table
  marks : Marks

/-- The inline table with one more member, `rest` being the text behind it. -/
def Inline.add (i : Inline) (key : Key) (v : Draft) (rest : List Char) : Except Fault Inline :=
  if i.marks.isFrozen key then flawed (.immutable key) rest
  else
    match putNew false .duplicate i.table key v with
    | .error flaw => flawed flaw rest
    | .ok table => .ok ⟨table, if isContainer v then i.marks.freeze key else i.marks⟩

/-! ## Nesting -/

/-- How much room there is for values to be nested in. -/
def nestingRoom : Nat := 980

/-- What a list takes of the room that it stands in. -/
def listRoom : Nat := 2

/-- What an inline table takes of the room that it stands in. -/
def tableRoom : Nat := 3

mutual

/-- A value at the start of the text; `room` is left for values to be nested in. -/
def readValue (room : Nat) : (steps : Nat) → List Char → Reading Draft
  | 0, cs => flawed .value cs
  | steps + 1, cs =>
    if room = 0 then .error .tooDeep
    else
      match cs with
      | '[' :: rest =>
        match skipFiller false rest with
        | .error e => .error e
        | .ok (']' :: rest) => .ok (.list [], rest)
        | .ok rest =>
          (readItems (room - listRoom) steps rest).map fun (items, r) => (.list items, r)
      | '{' :: rest =>
        match skipBlanks rest with
        | '}' :: rest => .ok (.object [], rest)
        | rest =>
          (readMembers (room - tableRoom) steps ⟨[], .none⟩ rest).map fun (table, r) =>
            (.object table, r)
      | cs => readScalar cs

/-- Items up to the closing bracket; a comma may stand in front of it. -/
def readItems (room : Nat) : (steps : Nat) → List Char → Reading (List Draft)
  | 0, cs => flawed .value cs
  | steps + 1, cs =>
    match readValue room steps cs with
    | .error e => .error e
    | .ok (v, rest) =>
      match skipFiller false rest with
      | .error e => .error e
      | .ok (']' :: rest) => .ok ([v], rest)
      | .ok (',' :: rest) =>
        match skipFiller false rest with
        | .error e => .error e
        | .ok (']' :: rest) => .ok ([v], rest)
        | .ok rest => (readItems room steps rest).map fun (vs, r) => (v :: vs, r)
      | .ok rest => flawed .unclosedList rest

/-- A key and its value. -/
def readPair (room : Nat) : (steps : Nat) → List Char → Reading (Key × Draft)
  | 0, cs => flawed .keyPart cs
  | steps + 1, cs =>
    match readKey cs with
    | .error e => .error e
    | .ok (key, '=' :: rest) =>
      (readValue room steps (skipBlanks rest)).map fun (v, r) => ((key, v), r)
    | .ok (_, rest) => flawed .equals rest

/-- Members up to the closing brace. -/
def readMembers (room : Nat) : (steps : Nat) → Inline → List Char → Reading Table
  | 0, _, cs => flawed .keyPart cs
  | steps + 1, inline, cs =>
    match readPair room steps cs with
    | .error e => .error e
    | .ok ((key, v), rest) =>
      match inline.add key v rest with
      | .error e => .error e
      | .ok inline =>
        match skipBlanks rest with
        | '}' :: rest => .ok (inline.table, rest)
        | ',' :: rest => readMembers room steps inline (skipBlanks rest)
        | rest => flawed .unclosedTable rest

end

end DocumentStore.Toml
