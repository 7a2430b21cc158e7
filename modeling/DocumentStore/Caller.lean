/-
  DocumentStore.Caller — who is calling: a user's record or nobody, and whether with the
  admin override.
-/

import DocumentStore.Failure

namespace DocumentStore

structure Caller where
  user : Option Record
  isAdmin : Bool
  token : Option String
  deriving Repr

namespace Caller

/-- The text of the id in the user's record. -/
def userId (caller : Caller) : Except Failure (Option String) := Record.idOf caller.user

def isAuthenticated (caller : Caller) : Bool := caller.user.isSome

/-- The words for true and false, in lower case. -/
def flagWord? (word : String) : Option Bool :=
  if ["1", "true", "yes", "y", "on", "t"].contains word then some true
  else if ["0", "false", "no", "n", "off", "f"].contains word then some false
  else none

/-- A flag given as a truth value, as one or zero, or as a word for it in any letter case. -/
def flag? : Value → Option Bool
  | .bool b => some b
  | .text s => flagWord? (s.map Char.toLower)
  | v =>
    match v.number? with
    | some n =>
      if n.sameValue (.int 1) then some true else if n.sameValue (.int 0) then some false else none
    | none => none

/-- The caller that a document describes: `user` an object or null, `is_admin` a flag. -/
def ofDocument (document : Record) : Except Failure Caller :=
  let admin := match document.get? "is_admin" with
    | none => some false
    | some v => flag? v
  match document.value "user", admin with
  | .null, some isAdmin => .ok ⟨none, isAdmin, none⟩
  | .object user, some isAdmin => .ok ⟨some user, isAdmin, none⟩
  | _, _ => .error .shape

end Caller

end DocumentStore
