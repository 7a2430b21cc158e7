/-
  DocumentStore.Toml.Table — tables under construction, and what may not be touched again.

  A key leads from table to table; a list of tables stands for its last one. Tables on the
  way are made where nothing is. What is there is never overwritten.

  A table that was opened by a header, or by a dotted key in a section that is closed, is
  declared: no header opens it again. What was given in line is frozen with all below it.
-/

import DocumentStore.Toml.Fault

namespace DocumentStore.Toml

/-! ## Marks -/

structure Marks where
  declared : List Key
  frozen : List Key
  /-- Keys that are declared once the section is closed. -/
  pending : List Key

namespace Marks

def none : Marks := ⟨[], [], []⟩

def isDeclared (m : Marks) (key : Key) : Bool := m.declared.contains key

/-- Whether a key or one that leads to it is frozen. -/
def isFrozen (m : Marks) (key : Key) : Bool := m.frozen.any fun k => k.isPrefixOf key

def declare (m : Marks) (key : Key) : Marks := { m with declared := key :: m.declared }

def freeze (m : Marks) (key : Key) : Marks := { m with frozen := key :: m.frozen }

def await (m : Marks) (keys : List Key) : Marks := { m with pending := keys ++ m.pending }

/-- A section is closed. -/
def settle (m : Marks) : Marks := { m with declared := m.pending ++ m.declared, pending := [] }

/-- Forgets a key and all below it. -/
def clear (m : Marks) (key : Key) : Marks :=
  let keep := fun k : Key => !key.isPrefixOf k
  { m with declared := m.declared.filter keep, frozen := m.frozen.filter keep }

end Marks

/-! ## Tables -/

abbrev Table := Draft.Members

/-- The table that a draft is or, if `lists` allows it, the last table of the list that it is,
and how to put another in its place. -/
def innerTable? (lists : Bool) (d : Draft) : Option (Table × (Table → Draft)) :=
  match d with
  | .object table => some (table, .object)
  | .list items =>
    match items.getLast?, lists with
    | some (.object table), true => some (table, fun t => .list (items.dropLast ++ [.object t]))
    | _, _ => none
  | _ => none

/-- The table with the one at a key changed by `f`; a value in the way is a fault. -/
def changeAt (lists : Bool) (f : Table → Except Flaw Table) (table : Table) :
    Key → Except Flaw Table
  | [] => f table
  | name :: key =>
    match innerTable? lists ((table.get? name).getD (.object [])) with
    | none => .error .overwritten
    | some (inner, outer) =>
      (changeAt lists f inner key).map fun changed => table.put name (outer changed)

/-- Makes a table at a key unless there is one. -/
def openTable (table : Table) (key : Key) : Except Flaw Table := changeAt true .ok table key

/-- Adds a table to the list of tables at a key. -/
def appendTable (table : Table) (key : Key) : Except Flaw Table :=
  let name := key.getLast?.getD ""
  let append (holder : Table) : Except Flaw Table :=
    match holder.get? name with
    | none => .ok (holder.put name (.list [.object []]))
    | some (.list items) => .ok (holder.put name (.list (items ++ [.object []])))
    | some _ => .error .overwritten
  changeAt true append table key.dropLast

/-- Puts a value under a key, where nothing may be. -/
def putNew (lists : Bool) (taken : String → Flaw) (table : Table) (key : Key) (v : Draft) :
    Except Flaw Table :=
  let name := key.getLast?.getD ""
  let putIn (holder : Table) : Except Flaw Table :=
    match holder.get? name with
    | none => .ok (holder.put name v)
    | some _ => .error (taken name)
  changeAt lists putIn table key.dropLast

def isContainer : Draft → Bool
  | .object _ => true
  | .list _ => true
  | _ => false

end DocumentStore.Toml
