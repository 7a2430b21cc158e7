/-
  DocumentStore.Tree — a tree of JSON values, read and written by path.

  A path names members of objects one inside the other; lists have no inside. A read of
  what is not there finds nothing, and so does replacing, changing or removing it. Only a
  new entry makes the objects on its path that are missing.
-/

import DocumentStore.Failure
import DocumentStore.Store.Supply

namespace DocumentStore

structure Tree where
  root : Record
  ids : Store.IdSource

namespace Tree

/-- The value at a path below `v`. -/
def valueAt (v : Value) : List String → Option Value
  | [] => some v
  | name :: path =>
    match v with
    | .object members =>
      match Keyed.get? members name with
      | some child => valueAt child path
      | none => none
    | _ => none

def get (tree : Tree) (path : List String) : Option Value := valueAt (.object tree.root) path

/-- The members with those of the object at a path changed by `f`; without such an object
nothing changes. -/
def changeAt (f : Record → Record) (members : Record) : List String → Record
  | [] => f members
  | name :: path =>
    match members.get? name with
    | some (.object child) => members.put name (.object (changeAt f child path))
    | _ => members

/-- How a walk fails that comes to a leaf with a path still ahead. -/
def blocked : List String → Failure
  | [] => .request .entryUnderLeaf
  | next :: _ => .request (.entryUnder next)

/-- Walks down a path and changes the members at its end by `f`. A name that nothing is under gets an
object as soon as the walk comes to it, so beside the outcome stand the members as the walk leaves them,
wherever it ends. -/
def descend (f : Record → Record) (members : Record) : List String → Except Failure Unit × Record
  | [] => (.ok (), f members)
  | name :: path =>
    let members := if Keyed.has members name then members else members.put name (.object [])
    match members.get? name with
    | some (.object child) =>
      let (outcome, child) := descend f child path
      (outcome, members.put name (.object child))
    | _ => (.error (blocked path), members)

/-- The path to what holds the last name, that name, and whether it is there. -/
def holder (tree : Tree) (path : List String) :
    Except Failure (List String × String × Option Value) :=
  match path.getLast? with
  | none => .error (.request .noPath)
  | some name => .ok (path.dropLast, name, tree.get path)

/-- Puts the body under a fresh id below a path; no id is drawn if the walk there fails. -/
def post (tree : Tree) (path : List String) (body : Value) : Except Failure Value × Tree :=
  match body with
  | .object members =>
    let (id, ids) := tree.ids.draw
    let entry := Value.object (Keyed.put members "_id" (.text id))
    match descend (·.put id entry) tree.root path with
    | (.error f, root) => (.error f, { tree with root })
    | (.ok (), root) => (.ok entry, ⟨root, ids⟩)
  | _ => (.error (.request .bodyShape), tree)

/-- Replaces the value at a path, if there is one. -/
def put (tree : Tree) (path : List String) (body : Value) :
    Except Failure (Option Value) × Tree :=
  match tree.holder path with
  | .error f => (.error f, tree)
  | .ok (_, _, none) => (.ok none, tree)
  | .ok (parent, name, some _) =>
    (.ok (some body), { tree with root := changeAt (·.put name body) tree.root parent })

/-- Puts the members of the body over those of the object at a path; null there counts as
nothing. -/
def patch (tree : Tree) (path : List String) (body : Value) :
    Except Failure (Option Value) × Tree :=
  match body with
  | .object changes =>
    match tree.get path with
    | none => (.ok none, tree)
    | some .null => (.ok none, tree)
    | some (.object members) =>
      (.ok (some (.object (Keyed.overlay members changes))),
        { tree with root := changeAt (·.overlay changes) tree.root path })
    | some _ => (.error (.request .mergeLeaf), tree)
  | _ => (.error (.request .bodyShape), tree)

/-- Removes the value at a path and gives it, if there is one. -/
def delete (tree : Tree) (path : List String) : Except Failure (Option Value) × Tree :=
  match tree.holder path with
  | .error f => (.error f, tree)
  | .ok (_, _, none) => (.ok none, tree)
  | .ok (parent, name, some v) =>
    (.ok (some v), { tree with root := changeAt (·.erase name) tree.root parent })

end Tree

end DocumentStore
