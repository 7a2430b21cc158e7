/-
  DocumentStore.Setup.Basic — what a server starts with.

  A setup gives the field that users are known by, the collections, the protected
  collections of users and sessions, a tree of values and the rules. Each part may be left
  out; what else a document holds is not looked at. Collections are objects three deep, the
  tree and the rules one.

  Every fault of a document is found, in the order of the parts.
-/

import DocumentStore.Value.Shown

namespace DocumentStore

structure Setup where
  identity : String
  seed : Draft.Members
  accounts : Draft.Members
  tree : Draft.Members
  rules : Draft.Members

namespace Setup

def defaultIdentity : String := "username"

def empty : Setup := ⟨defaultIdentity, [], [], [], []⟩

inductive Expected where
  | text
  | object
  deriving DecidableEq, Repr

/-- What was found under a path where something else was expected. -/
structure Mismatch where
  path : List String
  expected : Expected
  found : Draft

/-! ## Reading a document -/

/-- The part under the first of the names that the document has, with that name. -/
def part? (document : Draft.Members) : List String → Option (String × Draft)
  | [] => none
  | name :: names =>
    match document.get? name with
    | some d => some (name, d)
    | none => part? document names

/-- The name of a member, three replacement characters in place of a surrogate. -/
def nameShown (name : String) : String :=
  String.ofList (name.toList.flatMap fun c =>
    if Text.isLone c then List.replicate 3 (Char.ofNat 0xfffd) else [c])

mutual

/-- What keeps a draft from being objects nested `depth` deep. -/
def mismatches (path : List String) : (depth : Nat) → Draft → List Mismatch
  | 0, _ => []
  | depth + 1, d =>
    match d with
    | .object members => memberMismatches path depth members
    | d => [⟨path, .object, d⟩]

def memberMismatches (path : List String) (depth : Nat) : Draft.Members → List Mismatch
  | [] => []
  | (name, d) :: rest =>
    mismatches (path ++ [nameShown name.asText]) depth d ++ memberMismatches path depth rest

end

/-- An object part of a document, empty if there is none. -/
def objectPart (document : Draft.Members) (names : List String) (depth : Nat) :
    Draft.Members × List Mismatch :=
  match part? document names with
  | none => ([], [])
  | some (name, d) => (d.members?.getD [], mismatches [name] depth d)

def identityPart (document : Draft.Members) : String × List Mismatch :=
  match document.get? "identity" with
  | none => (defaultIdentity, [])
  | some (.text identity) => (identity, [])
  | some d => (defaultIdentity, [⟨["identity"], .text, d⟩])

def ofDocument (document : Draft.Members) : Except (List Mismatch) Setup :=
  let (identity, identityFaults) := identityPart document
  let (seed, seedFaults) := objectPart document ["seedData", "seed_data"] 3
  let (accounts, accountFaults) := objectPart document ["protectedData", "protected_data"] 3
  let (tree, treeFaults) := objectPart document ["jsonData", "json_data"] 1
  let (rules, ruleFaults) := objectPart document ["rules"] 1
  match identityFaults ++ seedFaults ++ accountFaults ++ treeFaults ++ ruleFaults with
  | [] => .ok ⟨identity, seed, accounts, tree, rules⟩
  | faults => .error faults

end Setup

end DocumentStore
