/-
  DocumentStore.Rule.Stock — ready-made predicates to register under names of one's own.

  They say a constant, compare the caller's id, look for a field in the incoming record,
  take the truth of a field of the stored one, or ask whether the caller owns the record
  that an incoming field refers to.
-/

import DocumentStore.Rule.Basic
import DocumentStore.Store.Basic

namespace DocumentStore

/-- A record by collection and id, the id being any value; only texts are ids of records, and
null stands for the ids of all. -/
def Collections.lookup (cs : Collections) : Rule.Lookup := fun name id =>
  match cs.collection name with
  | .error f => .error f
  | .ok _ =>
    match id with
    | .text id => cs.getOne name id
    | .null => .error .manyRecords
    | .list _ => .error (.idKind id.kind)
    | .object _ => .error (.idKind id.kind)
    | id => id.spelled.bind fun text => .error (.missing (.entry text))

namespace Rule.Predicate

def constant (b : Bool) : Predicate := .custom fun _ => .ok b

def callerIs (id : String) : Predicate :=
  .custom fun ctx => ctx.userId.map fun userId => userId == some id

def incomingHas (field : String) : Predicate :=
  .custom fun ctx => .ok (ctx.newData.get? field).isSome

def storedIs (field : String) : Predicate :=
  .custom fun ctx => .ok (ctx.data.value field).truthy

/-- A record's owner equals the caller's id, or both are absent. -/
def ownerIsCaller (record : Record) (userId : Option String) : Bool :=
  match record.value Store.ownerField, userId with
  | .null, none => true
  | .text o, some id => o == id
  | _, _ => false

def ownsReferred (collection field : String) : Predicate :=
  .custom fun ctx =>
    match ctx.lookup with
    | none => .error .noLookup
    | some find =>
      (find collection ((ctx.newData.get? field).getD (.text ""))).bind fun record =>
        ctx.userId.map (ownerIsCaller record)

end Rule.Predicate

end DocumentStore
