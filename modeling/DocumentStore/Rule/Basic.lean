/-
  DocumentStore.Rule.Basic — rules and what they decide.

  A rule allows or denies, asks for a role, asks for the owner, or asks a named predicate,
  possibly negated. A role rule that a nameless caller meets without the admin override
  refuses by asking for a caller; asked leniently, as for single fields, it just denies.
  Asking for the owner compares texts, and fails where an id has none.
-/

import DocumentStore.Caller
import DocumentStore.Store.Entry

namespace DocumentStore

namespace Rule

inductive Action where
  | create
  | read
  | update
  | delete
  deriving DecidableEq, Repr

namespace Action

/-- The key under which a rule for the action stands. -/
def key : Action → String
  | .create => ".create"
  | .read => ".read"
  | .update => ".update"
  | .delete => ".delete"

def ofKey? (key : String) : Option Action :=
  if key = ".create" then some .create
  else if key = ".read" then some .read
  else if key = ".update" then some .update
  else if key = ".delete" then some .delete
  else none

end Action

inductive Role where
  | guest
  | user
  | owner
  deriving DecidableEq, Repr

namespace Role

def name : Role → String
  | .guest => "Guest"
  | .user => "User"
  | .owner => "Owner"

def ofName? (name : String) : Option Role :=
  if name = "Guest" then some .guest
  else if name = "User" then some .user
  else if name = "Owner" then some .owner
  else none

end Role

/-- Finds the record that a predicate asks for, by collection and id. -/
abbrev Lookup := String → Draft → Except Failure Record

/-- What a rule is decided on: the caller, the stored record and the incoming one. -/
structure Context where
  user : Option Record
  data : Record
  newData : Draft.Members
  isAdmin : Bool
  lookup : Option Lookup

namespace Context

/-- The text of the id in the user's record. -/
def userId (ctx : Context) : Except Failure (Option String) := Record.idOf ctx.user

end Context

/-- Whether the user with this id is the one that `owner` names. -/
def owns (userId : Option String) (owner : Option Draft) : Except Failure Bool :=
  match userId, owner with
  | some _, some .null => .ok false
  | some id, some owner => owner.spelled.map fun text => text == id
  | _, _ => .ok false

/-- Whether the user is the one that `owner` names. -/
def Context.owns (ctx : Context) (owner : Option Draft) : Except Failure Bool :=
  match ctx.userId with
  | .error f => .error f
  | .ok id => Rule.owns id owner

/-- The value of `_ownerId` in a stored record. -/
def ownerIn (record : Record) : Option Draft :=
  (record.get? Store.ownerField).map Draft.ofValue

inductive Predicate where
  | isOwner
  | isNewOwner
  | isAuthenticated
  | isGuest
  | custom (test : Context → Except Failure Bool)

namespace Predicate

def holds (p : Predicate) (ctx : Context) : Except Failure Bool :=
  match p with
  | .isOwner => ctx.owns (ownerIn ctx.data)
  | .isNewOwner => ctx.owns (ctx.newData.get? Store.ownerField)
  | .isAuthenticated => .ok ctx.user.isSome
  | .isGuest => .ok ctx.user.isNone
  | .custom test => test ctx

/-- The name under which a predicate is there from the start. -/
def builtInName? : Predicate → Option String
  | .isOwner => some "isOwner"
  | .isNewOwner => some "isNewOwner"
  | .isAuthenticated => some "isAuthenticated"
  | .isGuest => some "isGuest"
  | .custom _ => none

end Predicate

end Rule

inductive Rule where
  | allow
  | deny
  | roles (allowed : List Rule.Role)
  | owner
  | named (name : String) (negated : Bool) (predicate : Rule.Predicate)

namespace Rule

/-- What a role rule decides. -/
def decideRoles (roles : List Role) (strict : Bool) (ctx : Context) : Except Failure Bool :=
  if roles.contains .guest then .ok true
  else if ctx.user.isNone && !ctx.isAdmin then
    if strict then .error .unauthorized else .ok false
  else if roles.contains .user then .ok true
  else if ctx.user.isSome && roles.contains .owner then ctx.owns (ownerIn ctx.data)
  else .ok false

def decide (rule : Rule) (strict : Bool) (ctx : Context) : Except Failure Bool :=
  match rule with
  | .allow => .ok true
  | .deny => .ok false
  | .roles rs => decideRoles rs strict ctx
  | .owner => ctx.owns (ownerIn ctx.data)
  | .named _ negated p => (p.holds ctx).map fun b => if negated then !b else b

def describe : Rule → String
  | .allow => "allow"
  | .deny => "deny"
  | .roles rs => "roles(" ++ commaSeparated (rs.map Role.name) ++ ")"
  | .owner => "isOwner"
  | .named name negated _ => (if negated then "!" else "") ++ name

end Rule

end DocumentStore
