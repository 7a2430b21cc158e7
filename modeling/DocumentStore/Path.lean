/-
  DocumentStore.Path — names of files, cleaned of what says nothing.

  Parts stand between slashes; empty parts and `.` are dropped, `..` is kept. One or three
  and more slashes in front are the root, exactly two a root of their own. The suffix of a
  name runs from its last point, unless that is the first or the last character.
-/

import DocumentStore.Text.Split

namespace DocumentStore

structure Path where
  root : String
  parts : List String
  deriving DecidableEq, Repr

namespace Path

def rootOf (cs : List Char) : String :=
  match (cs.takeWhile (· = '/')).length with
  | 0 => ""
  | 2 => "//"
  | _ => "/"

def partsOf (cs : List Char) : List String :=
  ((Text.splitAt '/' cs).map String.ofList).filter fun part => part != "" && part != "."

def ofText (text : String) : Path := ⟨rootOf text.toList, partsOf text.toList⟩

/-- The path as text; the path without parts is `.`. -/
def text (path : Path) : String :=
  if path.root.isEmpty && path.parts.isEmpty then "."
  else path.root ++ String.intercalate "/" path.parts

def name (path : Path) : String := path.parts.getLast?.getD ""

/-- The part of a name from its last point on, the characters before it being given. -/
def suffixAfter (before : List Char) : List Char → Option (List Char)
  | [] => none
  | c :: cs =>
    match suffixAfter (c :: before) cs with
    | some found => some found
    | none => if c = '.' ∧ !before.isEmpty ∧ !cs.isEmpty then some (c :: cs) else none

/-- The last point of a name that ends in one begins no suffix, nor does an earlier one. -/
def suffix (path : Path) : String :=
  let cs := path.name.toList
  if cs.getLast? = some '.' then "" else String.ofList ((suffixAfter [] cs).getD [])

/-- The path of something in the directory that a path names. -/
def child (path : Path) (name : String) : Path := { path with parts := path.parts ++ [name] }

end Path

end DocumentStore
