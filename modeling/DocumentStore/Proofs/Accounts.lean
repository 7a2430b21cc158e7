/-
  DocumentStore.Proofs.Accounts — calls about accounts, one by one and in a row.

  A registration, a login or a logout comes to one of three ends (`run_spec`). It is refused, and
  the users and sessions are as they were. It enters: a user who is registered just now, or who gave
  the right password, gets a session. Or it leaves: one session is taken out. So users only ever
  come in, and only by a registration (`Enters.kept`).
-/

import DocumentStore.Proofs.Sessions

namespace DocumentStore.Account

open Store (idField)

inductive AccountCall where
  | register (body : Value)
  | login (body : Value)
  | logout (token : Option String)

def AccountCall.body : AccountCall → Value
  | .register body => body
  | .login body => body
  | .logout _ => .null

/-- What a call answers, a logout nothing, and the directory after it. -/
def AccountCall.run (settings : Settings) (d : Directory) : AccountCall → Except Failure (Option Record) × Directory
  | .register body =>
    ((Account.register settings d (.ofValue body)).1.map some, (Account.register settings d (.ofValue body)).2)
  | .login body =>
    ((Account.login settings d (.ofValue body)).1.map some, (Account.login settings d (.ofValue body)).2)
  | .logout token => ((Account.logout d token).1.map fun _ => none, (Account.logout d token).2)

def afterCalls (settings : Settings) (d : Directory) (calls : List AccountCall) : Directory :=
  calls.foldl (fun d c => (c.run settings d).2) d

/-! ## What comes of a call -/

/-- The call comes as far as opening a session for the user, with the directory as it is then. -/
inductive Enters (settings : Settings) (d : Directory) : AccountCall → Record → Directory → Prop
  | register {body : Value} {user : Record} {d' : Directory} (h : Enrolls settings d (.ofValue body) user d') :
      Enters settings d (.register body) user d'
  | login {body : Value} {user : Record}
      (h : authenticate settings d.store.collections (.ofValue body) = .ok user) :
      Enters settings d (.login body) user d

inductive AccountCall.Outcome (settings : Settings) (d : Directory) :
    AccountCall → Except Failure (Option Record) × Directory → Prop
  | refused {c : AccountCall} (f : Failure) (salts : Salts) : Outcome settings d c (.error f, { d with salts })
  | entered {c : AccountCall} {user : Record} {d' : Directory} (h : Enters settings d c user d') :
      Outcome settings d c ((withToken settings d' user).1.map some, (withToken settings d' user).2)
  | left {token : String} {session : Session} {s : Store}
      (hfound : findSession d.store.collections token = .ok (some session))
      (hloses : d.store.collections.Loses s.collections sessions session.id) :
      Outcome settings d (.logout (some token)) (.ok none, { d with store := s })

section

variable {settings : Settings} {d d' : Directory} {c : AccountCall} {user : Record}

theorem AccountCall.run_spec (settings : Settings) (d : Directory) (c : AccountCall) :
    c.Outcome settings d (c.run settings d) := by
  cases c with
  | register body =>
    have hspec := register_spec settings d body
    rw [run]
    generalize Account.register settings d (.ofValue body) = out at hspec ⊢
    cases hspec with
    | refused f salts => exact .refused f salts
    | enrolled h => exact .entered (.register h)
  | login body =>
    rw [run]
    unfold Account.login
    split
    · exact .refused _ d.salts
    · rename_i user huser
      exact .entered (.login huser)
  | logout token =>
    rw [run]
    rcases logout_spec d token with ⟨f, hout⟩ | ⟨text, session, s, rfl, hfound, hloses, hout⟩
    · rw [hout]
      exact .refused f d.salts
    · rw [hout]
      exact .left hfound hloses

/-! ## Who enters -/

/-- What is found of users is read from their collection. -/
theorem holds_of_findUsers {cs : Collections} {identity : Draft} {found : List Record}
    (h : findUsers settings cs identity = .ok found) (hm : user ∈ found) : cs.Holds users user := by
  unfold findUsers at h
  split at h
  · cases h
    exact absurd hm List.not_mem_nil
  split at h
  · cases h
    exact absurd hm List.not_mem_nil
  unfold Collections.findExact at h
  split at h
  · cases h
  · rename_i c hc
    obtain ⟨id, e, he, hread⟩ := Collections.mem_readEntries h hm
    exact ⟨c, id, e, Collections.collection_eq_ok hc, (List.mem_filter.mp he).1, hread⟩

theorem holds_of_authenticate {cs : Collections} {body : Draft} (h : authenticate settings cs body = .ok user) :
    cs.Holds users user := by
  unfold authenticate at h
  split at h
  · cases h
  split at h
  · cases h
  · rename_i found hfound
    split at h
    · split at h
      · cases h
      · cases h
        exact holds_of_findUsers hfound List.mem_cons_self
      · cases h
    · cases h
  · cases h

/-- Whoever enters is stored, and is read by the id that the session names. -/
theorem Enters.stored (h : Enters settings d c user d') (hids : (d.store.collections.named users).names.Nodup) :
    d'.store.collections.getOne users (user.value idField).asText = .ok user := by
  refine Collections.getOne_eq_ok_iff.mpr ?_
  cases h with
  | register h =>
    obtain ⟨_, id, e, _, hgains, hread, -⟩ := h.gains
    rw [id_of_read hread]
    exact ⟨e, hgains.stored?_self, hread⟩
  | login h =>
    obtain ⟨c, id, e, hc, hm, hread⟩ := holds_of_authenticate h
    have hnamed : d.store.collections.named users = c := by rw [Collections.named, hc, Option.getD_some]
    rw [← hnamed] at hm
    rw [id_of_read hread]
    exact ⟨e, (Collections.mem_named_iff hids).mp hm, hread⟩

theorem Enters.run_eq (h : Enters settings d c user d') :
    c.run settings d = ((withToken settings d' user).1.map some, (withToken settings d' user).2) := by
  cases h with
  | register h => rw [AccountCall.run, h.register_eq]
  | login h => simp only [AccountCall.run, Account.login, h]

/-- Up to the session nothing happens, but for the new user of a registration. -/
theorem Enters.kept (h : Enters settings d c user d') :
    d'.store.collections = d.store.collections ∨
      ∃ id e, d.store.collections.Gains d'.store.collections users id e := by
  cases h with
  | register h =>
    obtain ⟨_, id, e, _, hgains, -⟩ := h.gains
    exact Or.inr ⟨id, e, hgains⟩
  | login => exact Or.inl rfl

end

/-! ### The first user -/

def firstSettings : Settings := ⟨"username", "key", 1⟩

def noAccounts : Directory := ⟨⟨[], .numbered ["u1", "s1"], .ofReadings 1000 []⟩, .given []⟩

def registerAnn : AccountCall := .register (.object [("username", .text "ann"), ("password", .text "sesame")])

theorem registerAnn_enters : ∃ user d', Enters firstSettings noAccounts registerAnn user d' ∧
    (d'.store.nextId sessions).1 = "s1" := by
  obtain ⟨hash, hhash⟩ : ∃ hash, hashPassword "sesame" noAccounts.salts.draw.1 firstSettings.rounds = .ok hash :=
    ⟨_, rfl⟩
  obtain ⟨user, e, hadd, -⟩ := noAccounts.store.add_ofMembers users
    ((Keyed.erase [("username", .text "ann"), ("password", .text "sesame")] passwordField).put Query.passwordHash
      (.text hash))
  rw [← userPayload_ofMembers] at hadd
  exact ⟨user, _, .register (.mk rfl rfl hhash hadd), rfl⟩

end DocumentStore.Account
