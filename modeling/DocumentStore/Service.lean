/-
  DocumentStore.Service — reading and writing collections under the rules.

  A call names a method, a collection, the path behind it, query parameters and a body. A
  read finds records, lets them pass the rules as they are stored, then shapes the answer
  and hides fields in it. A write passes the rules with the stored record and the payload;
  the payload loses the fields it may not set, and a new record belongs to the caller.

  Users and sessions are in a store of their own, which a read reaches only by a join.

  The store copies what it takes and what it gives. A payload may nest deeper than there is
  room for copying it; what is stored has been copied before, and is taken to fit.
-/

import DocumentStore.Query.Shape
import DocumentStore.Rule.Gate
import DocumentStore.Store.Basic
import DocumentStore.Text.Case

namespace DocumentStore.Service

open Query (Params Directives Found Shaped Resolver)
open Rule (Engine Action)

def usersCollection : String := "users"

inductive Method where
  | get
  | post
  | put
  | patch
  | delete
  deriving DecidableEq, Repr

/-- The method that a text names in any letter case. -/
def Method.ofText? (text : String) : Option Method :=
  let name := Text.upper text
  if name = "GET" then some .get
  else if name = "POST" then some .post
  else if name = "PUT" then some .put
  else if name = "PATCH" then some .patch
  else if name = "DELETE" then some .delete
  else none

structure Call where
  caller : Caller
  collection : Option String
  path : List String
  params : Params
  body : Draft

/-! ## Checks on a call -/

def requireShortPath (call : Call) : Except Failure Unit :=
  if 1 < call.path.length then .error (.request .unspecified) else .ok ()

def requireCollection (call : Call) : Except Failure String :=
  match call.collection with
  | some name => if name.isEmpty then .error (.request .noCollection) else .ok name
  | none => .error (.request .noCollection)

def requireId (call : Call) : Except Failure String :=
  match call.path with
  | [id] => .ok id
  | _ => .error (.request .noEntryId)

def requirePayload (call : Call) : Except Failure Draft.Members :=
  match call.body.members? with
  | some payload => .ok payload
  | none => .error (.request .bodyShape)

/-! ## Reads -/

/-- A fault of a value met in a query, reported as a malformed request in the same words. -/
def asQueryFailure : Failure → Failure
  | .value why => .request (.query why.message)
  | .idKind kind => .request (.query (Failure.idKind kind).message)
  | f => f

def queryResult {α : Type} : Except Failure α → Except Failure α
  | .ok a => .ok a
  | .error f => .error (asQueryFailure f)

/-- Where a join looks: users are in the protected collections. -/
def related (data protected_ : Collections) : Resolver := fun name id =>
  (if name = usersCollection then protected_ else data).getOne name id

/-- What a read selects: with a filter all of the collection, whatever the path says. -/
def select (data : Collections) (name : String) (path : List String) (d : Directives) :
    Except Failure Found :=
  match d.filter, path with
  | none, id :: _ => (data.getOne name id).bind fun r => Query.narrow d (.one r)
  | _, _ => (data.getAll name).bind fun rs => Query.narrow d (.many rs)

def foundValue : Found → Value
  | .one r => .object r
  | .many rs => .list (rs.map .object)

/-- Reads from a named collection. -/
def readFrom (engine : Engine) (data protected_ : Collections) (name : String) (call : Call) :
    Except Failure Value :=
  match queryResult (Directives.parse call.params) with
  | .error f => .error f
  | .ok d =>
    match queryResult (select data name call.path d) with
    | .error f => .error f
    | .ok found =>
      match engine.passRead call.caller (some name) (foundValue found) with
      | .error f => .error f
      | .ok hidden =>
        (queryResult (Query.shape d (some (related data protected_)) found)).map fun shaped =>
          Rule.Engine.redactAll hidden shaped.toValue

def get (engine : Engine) (data protected_ : Collections) (call : Call) : Except Failure Value :=
  match requireShortPath call with
  | .error f => .error f
  | .ok () =>
    match requireCollection call with
    | .error _ => engine.readResult call.caller call.collection (.list (data.names.map Key.toValue))
    | .ok name => readFrom engine data protected_ name call

/-! ## Writes -/

/-- The payload as owned by the user with this id, whatever owner it names itself. -/
def ownedBy (userId : Option String) (payload : Draft.Members) : Draft.Members :=
  let payload := payload.erase Store.ownerField
  match userId with
  | some id => payload.put Store.ownerField (.text id)
  | none => payload

/-- Whether a field of a payload is one of the store's own. -/
def isSystemKey : Key → Bool
  | .text name => Store.isSystem name
  | _ => false

/-- Whether there is no room for copying the payload, of which the store's own fields are not
copied. -/
def isTooDeep (payload : Draft.Members) : Bool :=
  Draft.copyingItems maxNesting ((payload.drop isSystemKey).map (·.2)) == .exhausted

/-- The payload, if there is room for copying it. -/
def copyable (payload : Draft.Members) : Except Failure Draft.Members :=
  if isTooDeep payload then .error (.nesting .copy) else .ok payload

/-- A value that the store does not take makes the request malformed. -/
def asWriteFailure : Failure → Failure
  | .value _ => .request .unspecified
  | f => f

def writeResult (r : Except Failure Record × Store) : Except Failure Value × Store :=
  match r with
  | (.ok record, s) => (.ok (.object record), s)
  | (.error f, s) => (.error (asWriteFailure f), s)

/-- The collection of a creation and the payload that passed, owned by the caller. -/
def prepareCreate (engine : Engine) (call : Call) : Except Failure (String × Draft.Members) :=
  match requireShortPath call with
  | .error f => .error f
  | .ok () =>
    if !call.path.isEmpty then .error (.request .postToEntry)
    else
      match requireCollection call with
      | .error f => .error f
      | .ok name =>
        match requirePayload call with
        | .error f => .error f
        | .ok payload =>
          match engine.passWrite call.caller .create name none payload with
          | .error f => .error f
          | .ok passed =>
            match call.caller.userId with
            | .error f => .error f
            | .ok userId => (copyable (ownedBy userId passed)).map fun payload => (name, payload)

def post (engine : Engine) (s : Store) (call : Call) : Except Failure Value × Store :=
  match prepareCreate engine call with
  | .error f => (.error f, s)
  | .ok (name, payload) => writeResult (s.add name (.object payload))

/-- The collection and id of an existing record that a call is about, and the record. -/
def target (data : Collections) (call : Call) : Except Failure (String × String × Record) :=
  match requireShortPath call with
  | .error f => .error f
  | .ok () =>
    match requireId call with
    | .error f => .error f
    | .ok id =>
      match requireCollection call with
      | .error f => .error f
      | .ok name => (data.getOne name id).map fun record => (name, id, record)

/-- The record to change and the payload that passed. -/
def prepareUpdate (engine : Engine) (data : Collections) (call : Call) :
    Except Failure (String × String × Draft.Members) :=
  match target data call with
  | .error f => .error f
  | .ok (name, id, record) =>
    match requirePayload call with
    | .error f => .error f
    | .ok payload =>
      match engine.passWrite call.caller .update name (some record) payload with
      | .error f => .error f
      | .ok passed => (copyable passed).map fun payload => (name, id, payload)

def update (engine : Engine)
    (write : Store → Key → String → Draft → Except Failure Record × Store) (s : Store)
    (call : Call) : Except Failure Value × Store :=
  match prepareUpdate engine s.collections call with
  | .error f => (.error f, s)
  | .ok (name, id, payload) => writeResult (write s name id (.object payload))

def prepareDelete (engine : Engine) (data : Collections) (call : Call) :
    Except Failure (String × String) :=
  match target data call with
  | .error f => .error f
  | .ok (name, id, record) =>
    (engine.gate call.caller .delete (some name) (some record) none).map fun _ => (name, id)

def delete (engine : Engine) (s : Store) (call : Call) : Except Failure Value × Store :=
  match prepareDelete engine s.collections call with
  | .error f => (.error f, s)
  | .ok (name, id) =>
    match s.delete name id with
    | (.ok record, s) => (.ok (.object record), s)
    | (.error f, s) => (.error f, s)

/-! ## Dispatch -/

/-- Answers a call by its method. -/
def dispatch (engine : Engine) (protected_ : Collections) (s : Store) (method : String)
    (call : Call) : Except Failure Value × Store :=
  match Method.ofText? method with
  | none => (.error (.request (.method method)), s)
  | some .get => (get engine s.collections protected_ call, s)
  | some .post => post engine s call
  | some .put => update engine Store.replace s call
  | some .patch => update engine Store.merge s call
  | some .delete => delete engine s call

end DocumentStore.Service
