/-
  DocumentStore.Account.Directory — users, their sessions, and who a token stands for.

  A user is known by one field of the record, its identity; two users never share one,
  letter case aside. A session binds a token, the signature of the session's id, to a user;
  it lives until it is closed, and a user may have several. What is given out of a user
  never holds the password hash.
-/

import DocumentStore.Account.Password
import DocumentStore.Query.Shape
import DocumentStore.Store.Basic

namespace DocumentStore.Account

def users : String := "users"

def sessions : String := "sessions"

def userField : String := "userId"

def tokenField : String := "accessToken"

def passwordField : String := "password"

/-- Salts in the order in which they are used. -/
structure Salts where
  salt : Nat → String
  used : Nat

def Salts.draw (s : Salts) : String × Salts := (s.salt s.used, { s with used := s.used + 1 })

/-- The salts given, then `salt1`, `salt2` and so on. -/
def Salts.given (given : List String) : Salts :=
  ⟨fun n => (given[n]?).getD ("salt" ++ Decimal.intText (n - given.length + 1 : Nat)), 0⟩

structure Settings where
  identity : String
  secret : String
  rounds : Int

structure Directory where
  store : Store
  salts : Salts

/-- The secret given; none or an empty one is replaced by a salt. -/
def secretOr (given : Option String) (salts : Salts) : String × Salts :=
  match given with
  | none => salts.draw
  | some secret => if secret.isEmpty then salts.draw else (secret, salts)

/-! ## Sessions -/

structure Session where
  id : String
  user : String
  token : String
  deriving DecidableEq, Repr

/-- A text under one name or, where that name is absent, under another. That both names are
taken, this one first, and nothing but texts, is what is assumed of the validating library. -/
def textUnder (record : Record) (name other : String) : Option String :=
  match record.get? name with
  | some (.text s) => some s
  | some _ => none
  | none =>
    match record.get? other with
    | some (.text s) => some s
    | _ => none

def Session.ofRecord (record : Record) : Except Failure Session :=
  match textUnder record "_id" "id", textUnder record userField "user_id",
      textUnder record tokenField "access_token" with
  | some id, some user, some token => .ok ⟨id, user, token⟩
  | _, _, _ => .error .shape

def findSession (cs : Collections) (token : String) : Except Failure (Option Session) :=
  if !cs.has sessions then .ok none
  else
    match cs.findExact sessions [(tokenField, .text token)] with
    | .error f => .error f
    | .ok [] => .ok none
    | .ok (record :: _) => (Session.ofRecord record).map some

/-- The payload of a session, with its token once it has one. -/
def sessionPayload (user : String) (token : Option String) : Draft :=
  .object ((.text userField, .text user) ::
    match token with
    | none => []
    | some t => [(.text tokenField, .text t)])

/-- Opens a session for a user and gives its token. -/
def openSession (settings : Settings) (s : Store) (user : String) :
    Except Failure String × Store :=
  match s.add sessions (sessionPayload user none) with
  | (.error f, s) => (.error f, s)
  | (.ok created, s) =>
    let id := (created.value Store.idField).asText
    match signToken id settings.secret with
    | .error f => (.error f, s)
    | .ok token =>
      match s.replace sessions id (sessionPayload user (some token)) with
      | (.error f, s) => (.error f, s)
      | (.ok stored, s) => ((Session.ofRecord stored).map Session.token, s)

/-! ## Users -/

def findUsers (settings : Settings) (cs : Collections) (identity : Draft) :
    Except Failure (List Record) :=
  if !cs.has users then .ok []
  else
    match identity.asValue? with
    | none => .ok []
    | some v => cs.findExact users [(settings.identity, v)]

/-- What of a user's record is given out. -/
def publicUser (user : Record) : Record := user.erase Query.passwordHash

/-- The user as given out, with the token of a new session. -/
def withToken (settings : Settings) (d : Directory) (user : Record) :
    Except Failure Record × Directory :=
  match openSession settings d.store (user.value Store.idField).asText with
  | (.error f, s) => (.error f, { d with store := s })
  | (.ok token, s) => (.ok ((publicUser user).put tokenField (.text token)), { d with store := s })

/-- What a new user's body must give: an identity that is not empty, and a password. -/
def credentials (settings : Settings) (body : Draft) :
    Except Failure (Draft.Members × Draft × String) :=
  match body.members? with
  | none => .error (.request .missingFields)
  | some members =>
    match members.get? settings.identity, members.get? passwordField with
    | some identity, some (.text password) =>
      if identity.truthy && !password.isEmpty then .ok (members, identity, password)
      else .error (.request .missingFields)
    | _, _ => .error (.request .missingFields)

/-- The record of a new user: the body with the hash in place of the password. -/
def userPayload (members : Draft.Members) (hash : String) : Draft :=
  .object ((members.erase passwordField).put Query.passwordHash (.text hash))

def register (settings : Settings) (d : Directory) (body : Draft) :
    Except Failure Record × Directory :=
  match credentials settings body with
  | .error f => (.error f, d)
  | .ok (members, identity, password) =>
    match findUsers settings d.store.collections identity with
    | .error f => (.error f, d)
    | .ok (_ :: _) => (.error (.taken settings.identity), d)
    | .ok [] =>
      let (salt, salts) := d.salts.draw
      match hashPassword password salt settings.rounds with
      | .error f => (.error f, { d with salts })
      | .ok hash =>
        match d.store.add users (userPayload members hash) with
        | (.error (.value _), s) => (.error (.request .unspecified), ⟨s, salts⟩)
        | (.error f, s) => (.error f, ⟨s, salts⟩)
        | (.ok user, s) => withToken settings ⟨s, salts⟩ user

def loginFailed {α : Type} : Except Failure α := .error (.credential .login)

/-- The one user that a body names with the right password. -/
def authenticate (settings : Settings) (cs : Collections) (body : Draft) :
    Except Failure Record :=
  match body.members? with
  | none => loginFailed
  | some members =>
    match findUsers settings cs ((members.get? settings.identity).getD .null) with
    | .error f => .error f
    | .ok [user] =>
      match members.get? passwordField, user.get? Query.passwordHash with
      | some (.text password), some (.text stored) =>
        match verifyPassword password stored with
        | .error f => .error f
        | .ok true => .ok user
        | .ok false => loginFailed
      | _, _ => loginFailed
    | .ok _ => loginFailed

def login (settings : Settings) (d : Directory) (body : Draft) :
    Except Failure Record × Directory :=
  match authenticate settings d.store.collections body with
  | .error f => (.error f, d)
  | .ok user => withToken settings d user

/-- Ends the session of a token. -/
def logout (d : Directory) (token : Option String) : Except Failure Unit × Directory :=
  match token with
  | none => (.error (.credential .noSession), d)
  | some token =>
    if token.isEmpty then (.error (.credential .noSession), d)
    else
      match findSession d.store.collections token with
      | .error f => (.error f, d)
      | .ok none => (.error (.credential .noSession), d)
      | .ok (some session) =>
        match d.store.delete sessions session.id with
        | (.ok _, s) => (.ok (), { d with store := s })
        | (.error f, s) => (.error f, { d with store := s })

/-- The record of the user that a token stands for; no token stands for nobody. -/
def resolve (cs : Collections) (token : Option String) : Except Failure (Option Record) :=
  match token with
  | none => .ok none
  | some token =>
    match findSession cs token with
    | .error f => .error f
    | .ok none => .error (.credential .token)
    | .ok (some session) =>
      match cs.getOne users session.user with
      | .ok user => .ok (some user)
      | .error (.missing _) => .error (.credential .token)
      | .error f => .error f

/-- The caller's own record. -/
def me (user : Option Record) : Except Failure Record :=
  match user with
  | none => .error .unauthorized
  | some user => .ok (publicUser user)

end DocumentStore.Account
