/-
  DocumentStore.Server — a request in, a response out, and the state after it.

  A server has four areas: `data` are the collections under the rules, `users` the accounts,
  `jsonstore` the tree and `util` the switches. A request is first refused if its token is
  invalid, then if its area is none of the four. Whatever was changed stays changed, also
  where the answer cannot be given.

  The areas draw ids and readings of the clock from one supply.
-/

import DocumentStore.Account.Directory
import DocumentStore.Http.CrossOrigin
import DocumentStore.Service
import DocumentStore.Setup.Basic
import DocumentStore.Switches
import DocumentStore.Tree

namespace DocumentStore

open Http (Request Response Route)

structure Server where
  engine : Rule.Engine
  accounts : Account.Settings

namespace Server

structure State where
  data : Collections
  accounts : Collections
  tree : Record
  switches : Switches
  ids : Store.IdSource
  clock : Store.Clock
  salts : Account.Salts

namespace State

def store (s : State) : Store := ⟨s.data, s.ids, s.clock⟩

def withStore (s : State) (store : Store) : State :=
  { s with data := store.collections, ids := store.ids, clock := store.clock }

def directory (s : State) : Account.Directory := ⟨⟨s.accounts, s.ids, s.clock⟩, s.salts⟩

def withDirectory (s : State) (d : Account.Directory) : State :=
  { s with
    accounts := d.store.collections, ids := d.store.ids, clock := d.store.clock, salts := d.salts }

def asTree (s : State) : Tree := ⟨s.tree, s.ids⟩

def withTree (s : State) (tree : Tree) : State := { s with tree := tree.root, ids := tree.ids }

end State

/-! ## Areas -/

inductive Area where
  | data
  | users
  | tree
  | switches
  deriving DecidableEq, Repr

def Area.ofName? (name : String) : Option Area :=
  if name = "data" then some .data
  else if name = "users" then some .users
  else if name = "jsonstore" then some .tree
  else if name = "util" then some .switches
  else none

/-- A request that has reached an area. -/
structure Visit where
  method : String
  caller : Caller
  place : List String
  params : Query.Params
  body : Value

abbrev Outcome := Except Failure Value × State

def visitData (server : Server) (s : State) (v : Visit) : Outcome :=
  let call : Service.Call :=
    ⟨v.caller, v.place.head?, v.place.tail, v.params, Draft.ofValue v.body⟩
  let (result, store) := Service.dispatch server.engine s.accounts s.store v.method call
  (result, s.withStore store)

def recordOutcome (s : State) (r : Except Failure Record × Account.Directory) : Outcome :=
  (r.1.map .object, s.withDirectory r.2)

def visitUsers (server : Server) (s : State) (v : Visit) : Outcome :=
  let body := Draft.ofValue v.body
  match v.method, v.place.headD "" with
  | "GET", "me" => ((Account.me v.caller.user).map .object, s)
  | "POST", "register" => recordOutcome s (Account.register server.accounts s.directory body)
  | "POST", "login" => recordOutcome s (Account.login server.accounts s.directory body)
  | "GET", "logout" =>
    let (result, d) := Account.logout s.directory v.caller.token
    (result.map fun _ => .null, s.withDirectory d)
  | method, action => (.error (.request (.accountAction method action)), s)

def treeOutcome (s : State) (r : Except Failure (Option Value) × Tree) : Outcome :=
  (r.1.map fun v => v.getD .null, s.withTree r.2)

def visitTree (s : State) (v : Visit) : Outcome :=
  match v.method with
  | "GET" => (.ok ((s.asTree.get v.place).getD .null), s)
  | "POST" =>
    let (result, tree) := s.asTree.post v.place v.body
    (result, s.withTree tree)
  | "PUT" => treeOutcome s (s.asTree.put v.place v.body)
  | "PATCH" => treeOutcome s (s.asTree.patch v.place v.body)
  | "DELETE" => treeOutcome s (s.asTree.delete v.place)
  | method => (.error (.request (.method method)), s)

def visitSwitches (s : State) (v : Visit) : Outcome :=
  match v.method with
  | "GET" => (.ok (s.switches.get v.place), s)
  | "POST" =>
    let (result, switches) := s.switches.post v.body
    (result, { s with switches })
  | method => (.error (.request (.method method)), s)

def visit (server : Server) (s : State) : Area → Visit → Outcome
  | .data, v => visitData server s v
  | .users, v => visitUsers server s v
  | .tree, v => visitTree s v
  | .switches, v => visitSwitches s v

/-! ## Requests -/

def tokenHeader : String := "x-authorization"

def adminHeader : String := "x-admin"

/-- Who sends a request: the user of its token, with the admin override if it says so. -/
def callerOf (s : State) (request : Request) : Except Failure Caller :=
  let token := request.headers.get? tokenHeader
  (Account.resolve s.accounts token).map fun user =>
    ⟨user, request.headers.has adminHeader, token⟩

/-- The area that a routed request reaches and its visit there. -/
def admission (s : State) (request : Request) (route : Route) : Except Failure (Area × Visit) :=
  match callerOf s request with
  | .error f => .error f
  | .ok caller =>
    match Area.ofName? route.area with
    | none => .error (.request (.service route.area))
    | some area =>
      request.value.map fun body =>
        (area, ⟨request.method, caller, route.place, request.target.params, body⟩)

def respond (server : Server) (s : State) (request : Request) : Response × State :=
  match Http.route request with
  | .error response => (response, s)
  | .ok route =>
    match admission s request route with
    | .error f => (.ofFailure f, s)
    | .ok (area, v) =>
      let (result, s) := visit server s area v
      (.ofResult result, s)

/-- Answers a request. What went wrong inside is answered at once and shared with nobody;
every other answer waits while the delay is on. -/
def handle (server : Server) (s : State) (request : Request) : Response × State :=
  match Http.preflight? request with
  | some method =>
    ({ Http.answerPreflight request method with delayed := s.switches.throttle }, s)
  | none =>
    let (response, s) := respond server s request
    if response.isServerError then (response, s)
    else
      ({ response.withHeaders (Http.shareHeaders request) with delayed := s.switches.throttle }, s)

/-! ## Starting -/

/-- The settings, collections and supplies that a server starts from, beside its setup. -/
structure Start where
  secret : Option String
  throttle : Bool
  rounds : Int
  ids : Store.IdSource
  clock : Store.Clock
  salts : Account.Salts

/-- The rules of a setup. -/
def engineOf (setup : Setup) : Except Failure Rule.Engine :=
  Rule.Engine.ofDocument .builtIn none (.ofDraft (.object setup.rules))

/-- The tree of a setup. -/
def treeOf (setup : Setup) : Except Failure Record :=
  Failure.ofDraft (Draft.checkRecord (.object setup.tree))

def start (setup : Setup) (b : Start) : Except Failure (Server × State) := do
  let data ← Collections.ofSeed (.object setup.seed)
  let accounts ← Collections.ofSeed (.object setup.accounts)
  let engine ← engineOf setup
  let (secret, salts) := Account.secretOr b.secret b.salts
  let tree ← treeOf setup
  pure (⟨engine, ⟨setup.identity, secret, b.rounds⟩⟩,
    ⟨data, accounts, tree, .ofThrottle b.throttle, b.ids, b.clock, salts⟩)

/-- The least and the greatest time, in milliseconds, that a delayed answer waits. -/
def delayRange : Nat × Nat := (500, 1000)

end Server

end DocumentStore
