/-
  DocumentStore.Proofs.Sessions — what opening a session does to the accounts.

  What makes a user or a session is JSON, and the store takes that always (`add_ofMembers`,
  `replace_ofMembers`). A session is stored before its token is signed. So opening one changes the accounts whatever
  comes of it, and what comes of it is what comes of signing the new id (`openSession_spec`). A
  registration from a JSON body is refused with the accounts as they were, or it comes as far as
  opening a session for the user that it has added (`register_spec`).
-/

import DocumentStore.Account.Directory
import DocumentStore.Proofs.FailedWrites
import DocumentStore.Proofs.Writes

namespace DocumentStore

open Store (Entry Operation idField createdField isSystem)

/-! ## Writing objects -/

namespace Store

/-- An addition is refused, or puts an entry with the payload's fields under the next id and is answered
by reading that. -/
theorem add_spec (s : Store) (name : String) (payload : Draft) :
    (∃ f, s.add name payload = (.error f, s)) ∨
      ∃ members e s', payload.members? = some members ∧ s.add name payload = (e.read (s.nextId name).1, s') ∧
        s.collections.Gains s'.collections name (s.nextId name).1 e ∧
        ∀ field, isSystem field = false →
          e.record.get? field = (Keyed.get? members (.text field)).bind fun draft => draft.check.toOption := by
  have hrun := run_spec s (.add name payload)
  generalize hout : Operation.run (.add name payload) s = out at hrun
  cases hrun with
  | refused f => exact Or.inl ⟨f, hout⟩
  | @installed _ _ e hi ids =>
    cases hi with
    | add hp hc =>
      refine Or.inr ⟨_, _, _, hp, hout, Collections.gains_putEntry (s.stored?_nextId name) _ _ _, fun field hf => ?_⟩
      obtain ⟨stored, hstored, hfields⟩ := Entry.create_eq_ok hc
      rw [Entry.get?_put _ isSystem_createdField hf, hfields field hf, Entry.get?_ofPayload hstored hf]

/-- A JSON object is always added, under the next id and with its own fields, and answered so. -/
theorem add_ofMembers (s : Store) (name : String) (ms : Record) :
    ∃ record e, s.add name (.object (Draft.ofMembers ms)) =
        (.ok record, s.putEntry name (s.nextId name).1 e (s.nextId name).2 s.clock.read.2) ∧
      e.read (s.nextId name).1 = .ok record ∧
      ∀ field, isSystem field = false → e.record.get? field = (ms.drop isSystem).get? field := by
  obtain ⟨stored, hc⟩ := Entry.create_ofMembers ms
  let e : Entry := (Entry.ofRecord stored).put createdField (.int s.clock.read.1)
  have hread : e.read (s.nextId name).1 = .ok (e.record.put idField (.text (s.nextId name).1)) :=
    Entry.read_of_foreign rfl _
  refine ⟨_, e, ?_, hread, fun field hf => ?_⟩
  · rw [add_object, hc, ← hread]
  · obtain ⟨entry, hentry, hfields⟩ := Entry.create_eq_ok hc
    cases (Entry.ofPayload_ofMembers ms).symm.trans hentry
    rw [Entry.get?_put _ isSystem_createdField hf]
    exact hfields field hf

/-- A JSON object replaces any record that can be read by its own fields, and is answered so. -/
theorem replace_ofMembers {s : Store} {name id : String} {e : Entry} (he : s.collections.stored? name id = some e)
    (hf : e.foreign = none) (ms : Record) :
    ∃ record e', s.replace name id (.object (Draft.ofMembers ms)) =
        (.ok record, s.putEntry name id e' s.ids s.clock.read.2) ∧
      e'.read id = .ok record ∧
      ∀ field, isSystem field = false → e'.record.get? field = (ms.drop isSystem).get? field := by
  let e' : Entry := e.replace (.ofRecord (ms.drop isSystem)) s.clock.read.1
  have hread : e'.read id = .ok (e'.record.put idField (.text id)) := Entry.read_of_foreign rfl _
  refine ⟨_, e', ?_, hread, fun field hn => Entry.get?_replace hn⟩
  rw [puts_replace.write_eq (Collections.entry_eq_ok_iff.mpr he) hf, Entry.ofPayload_ofMembers, ← hread]

end Store

namespace Account

/-! ## Stored sessions -/

theorem sessionPayload_none (user : String) :
    sessionPayload user none = .object (Draft.ofMembers [(userField, .text user)]) := rfl

theorem sessionPayload_some (user token : String) :
    sessionPayload user (some token) =
      .object (Draft.ofMembers [(userField, .text user), (tokenField, .text token)]) := rfl

theorem textUnder_of_get? {record : Record} {name s : String} (h : record.get? name = some (.text s))
    (other : String) : textUnder record name other = some s := by
  rw [textUnder, h]

/-- The entry is a session of the user: it names the user, and has the token that is signed for its
id, or none if that cannot be signed. -/
structure IsSession (settings : Settings) (user id : String) (e : Entry) : Prop where
  foreign : e.foreign = none
  user : e.record.get? userField = some (.text user)
  token : e.record.get? tokenField = (signToken id settings.secret).toOption.map .text

/-- The id of what is read is that of its entry. -/
theorem id_of_read {e : Entry} {id : String} {record : Record} (hread : e.read id = .ok record) :
    (record.value idField).asText = id := by
  rw [Record.value, Entry.get?_read_id hread]
  rfl

/-- A session that is read is known by its id, its user and its token. -/
theorem ofRecord_session {record : Record} {id user token : String} {e : Entry} (hread : e.read id = .ok record)
    (huser : e.record.get? userField = some (.text user)) (htoken : e.record.get? tokenField = some (.text token)) :
    Session.ofRecord record = .ok ⟨id, user, token⟩ := by
  have hid' : textUnder record "_id" "id" = some id := textUnder_of_get? (Entry.get?_read_id hread) _
  rw [← Entry.get?_read hread (by decide)] at huser htoken
  rw [Session.ofRecord, hid', textUnder_of_get? huser, textUnder_of_get? htoken]

/-! ## Tokens -/

theorem octets_error {text : String} {f : Failure} (h : octets text = .error f) : f = .unencodable text := by
  unfold octets at h
  split at h
  · cases h
  · exact (Except.error.inj h).symm

/-- A token is not signed only if a text has no octets. -/
theorem signToken_error {value secret : String} {f : Failure} (h : signToken value secret = .error f) :
    ∃ text, f = .unencodable text := by
  rcases Result.bind_eq_error.mp h with h | ⟨key, -, h⟩
  · exact ⟨secret, octets_error h⟩
  rcases Result.bind_eq_error.mp h with h | ⟨bytes, -, h⟩
  · exact ⟨value, octets_error h⟩
  · cases h

/-! ## Opening and closing -/

/-- Opening a session comes to what signing its id comes to, and leaves it stored beside what was there. -/
theorem openSession_spec (settings : Settings) (s : Store) (user : String) :
    (openSession settings s user).1 = signToken (s.nextId sessions).1 settings.secret ∧
      ∃ e, s.collections.Gains (openSession settings s user).2.collections sessions (s.nextId sessions).1 e ∧
        IsSession settings user (s.nextId sessions).1 e := by
  obtain ⟨created, e, hadd, hread, hfields⟩ := s.add_ofMembers sessions [(userField, .text user)]
  have hgains := Collections.gains_putEntry (s.stored?_nextId sessions) e (s.nextId sessions).2 s.clock.read.2
  have hforeign := (Entry.read_eq_ok hread).1
  unfold openSession
  rw [sessionPayload_none, hadd]
  dsimp only
  rw [id_of_read hread]
  cases hsign : signToken (s.nextId sessions).1 settings.secret with
  | error f =>
    refine ⟨rfl, e, hgains, hforeign, hfields userField (by decide), ?_⟩
    rw [hsign]
    exact hfields tokenField (by decide)
  | ok token =>
    obtain ⟨stored, e', hreplace, hread', hfields'⟩ :=
      Store.replace_ofMembers hgains.stored?_self hforeign [(userField, .text user), (tokenField, .text token)]
    have huser := hfields' userField (by decide)
    have htoken := hfields' tokenField (by decide)
    dsimp only
    rw [sessionPayload_some, hreplace]
    dsimp only
    rw [ofRecord_session hread' huser htoken]
    refine ⟨rfl, e', hgains.putEntry e' _ _, (Entry.read_eq_ok hread').1, huser, ?_⟩
    rw [hsign]
    exact htoken

theorem withToken_spec (settings : Settings) (d : Directory) (user : Record) :
    (withToken settings d user).1 =
        (signToken (d.store.nextId sessions).1 settings.secret).map (fun token =>
          (publicUser user).put tokenField (.text token)) ∧
      ∃ e, d.store.collections.Gains (withToken settings d user).2.store.collections sessions
          (d.store.nextId sessions).1 e ∧
        IsSession settings (user.value idField).asText (d.store.nextId sessions).1 e := by
  obtain ⟨hresult, e, he⟩ := openSession_spec settings d.store (user.value idField).asText
  unfold withToken
  generalize openSession settings d.store (user.value idField).asText = out at hresult he
  obtain ⟨result, s⟩ := out
  subst hresult
  cases hsign : signToken (d.store.nextId sessions).1 settings.secret <;> exact ⟨rfl, e, he⟩

/-- The session that is found for a token is closed, or everything is as it was. -/
theorem logout_spec (d : Directory) (token : Option String) :
    (∃ f, logout d token = (.error f, d)) ∨
      ∃ text session s, token = some text ∧ findSession d.store.collections text = .ok (some session) ∧
        d.store.collections.Loses s.collections sessions session.id ∧
        logout d token = (.ok (), { d with store := s }) := by
  unfold logout
  split
  · exact .inl ⟨_, rfl⟩
  split
  · exact .inl ⟨_, rfl⟩
  split
  · exact .inl ⟨_, rfl⟩
  · exact .inl ⟨_, rfl⟩
  rename_i session hfound
  split
  · rename_i s hdelete
    exact .inr ⟨_, session, s, rfl, hfound, Collections.loses_of_delete hdelete, rfl⟩
  · rename_i f s hdelete
    have hf : ((Operation.delete sessions session.id).run d.store).1 = .error f := congrArg Prod.fst hdelete
    have hs : s = d.store := (congrArg Prod.snd hdelete).symm.trans (Store.failed_operation_keeps hf id)
    exact .inl ⟨f, by rw [hs]⟩

/-! ## Users -/

/-- The entry is that of a user: it has what is given under each name, but the hash in place of the
password. -/
structure IsUser (members : Draft.Members) (hash : String) (e : Entry) : Prop where
  password : e.record.get? passwordField = none
  hash : e.record.get? Query.passwordHash = some (.text hash)
  given : ∀ field, isSystem field = false → field ≠ passwordField → field ≠ Query.passwordHash →
    e.record.get? field = (Keyed.get? members (.text field)).bind fun draft => draft.check.toOption

theorem add_user (s : Store) (members : Draft.Members) (hash : String) :
    (∃ f, s.add users (userPayload members hash) = (.error f, s)) ∨
      ∃ e s', s.add users (userPayload members hash) = (e.read (s.nextId users).1, s') ∧
        s.collections.Gains s'.collections users (s.nextId users).1 e ∧ IsUser members hash e := by
  rcases s.add_spec users (userPayload members hash) with hrefused | ⟨_, e, s', ⟨⟩, hadd, hgains, hfields⟩
  · exact Or.inl hrefused
  have hpassword : Keyed.get? (Keyed.put (Keyed.erase members passwordField) Query.passwordHash (.text hash))
      (.text passwordField) = none := by
    rw [Key.get?_put_of_ne _ (mt Key.text.inj (by decide)), Keyed.get?_erase_self]
  have hhash : Keyed.get? (Keyed.put (Keyed.erase members passwordField) Query.passwordHash (.text hash))
      (.text Query.passwordHash) = some (.text hash) := Keyed.get?_put_self _ (Key.text_beq_self _) _
  refine Or.inr ⟨e, s', hadd, hgains, ?_, ?_, fun field hf hne hne' => ?_⟩
  · rw [hfields _ (by decide), hpassword]
    rfl
  · rw [hfields _ (by decide), hhash]
    rfl
  · rw [hfields field hf, Key.get?_put_of_ne _ (mt Key.text.inj hne'), Key.get?_erase_of_ne _ (mt Key.text.inj hne)]

inductive Enrolls (settings : Settings) (d : Directory) (body : Draft) : Record → Directory → Prop
  | mk {members : Draft.Members} {identity : Draft} {password hash : String} {user : Record} {s : Store}
      (hbody : credentials settings body = .ok (members, identity, password))
      (hfree : findUsers settings d.store.collections identity = .ok [])
      (hhash : hashPassword password d.salts.draw.1 settings.rounds = .ok hash)
      (hadd : d.store.add users (userPayload members hash) = (.ok user, s)) :
      Enrolls settings d body user ⟨s, d.salts.draw.2⟩

inductive Registered (settings : Settings) (d : Directory) (body : Draft) :
    Except Failure Record × Directory → Prop
  | refused (f : Failure) (salts : Salts) : Registered settings d body (.error f, { d with salts })
  | enrolled {user : Record} {d' : Directory} (h : Enrolls settings d body user d') :
      Registered settings d body (withToken settings d' user)

theorem credentials_ok {settings : Settings} {body : Draft} {members : Draft.Members} {identity : Draft}
    {password : String} (h : credentials settings body = .ok (members, identity, password)) :
    body.members? = some members := by
  unfold credentials at h
  split at h
  · cases h
  rename_i hm
  split at h
  · split at h
    · cases h
      exact hm
    · cases h
  · cases h

theorem userPayload_ofMembers (ms : Record) (hash : String) :
    userPayload (Draft.ofMembers ms) hash =
      .object (Draft.ofMembers ((ms.erase passwordField).put Query.passwordHash (.text hash))) := by
  rw [userPayload, Draft.ofMembers_erase, ← Draft.ofMembers_put]
  rfl

theorem Enrolls.register_eq {settings : Settings} {d d' : Directory} {body : Draft} {user : Record}
    (h : Enrolls settings d body user d') : register settings d body = withToken settings d' user := by
  cases h with
  | mk hbody hfree hhash hadd => simp only [register, hbody, hfree, hhash, hadd]

/-- A user whom nothing stands against is added. -/
theorem exists_enrolls {settings : Settings} {d : Directory} {v : Value} {members : Draft.Members} {identity : Draft}
    {password hash : String} (hbody : credentials settings (.ofValue v) = .ok (members, identity, password))
    (hfree : findUsers settings d.store.collections identity = .ok [])
    (hhash : hashPassword password d.salts.draw.1 settings.rounds = .ok hash) :
    ∃ user d', Enrolls settings d (.ofValue v) user d' := by
  obtain ⟨ms, -, rfl⟩ := Draft.members?_ofValue (credentials_ok hbody)
  obtain ⟨user, e, hadd, -⟩ :=
    d.store.add_ofMembers users ((Keyed.erase ms passwordField).put Query.passwordHash (.text hash))
  rw [← userPayload_ofMembers] at hadd
  exact ⟨user, _, .mk hbody hfree hhash hadd⟩

theorem register_spec (settings : Settings) (d : Directory) (v : Value) :
    Registered settings d (.ofValue v) (register settings d (.ofValue v)) := by
  by_cases henrolls : ∃ user d', Enrolls settings d (.ofValue v) user d'
  · obtain ⟨user, d', h⟩ := henrolls
    rw [h.register_eq]
    exact .enrolled h
  unfold register
  split
  · exact .refused _ d.salts
  rename_i hbody
  split
  · exact .refused _ d.salts
  · exact .refused _ d.salts
  rename_i hfree
  dsimp only
  split
  · exact .refused _ _
  · rename_i hash hhash
    exact absurd (exists_enrolls hbody hfree hhash) henrolls

/-- Whoever is enrolled is stored beside the users that were there, with what the body gives. -/
theorem Enrolls.stores {settings : Settings} {d d' : Directory} {body : Draft} {user : Record}
    (h : Enrolls settings d body user d') :
    ∃ members identity password hash id e, credentials settings body = .ok (members, identity, password) ∧
      findUsers settings d.store.collections identity = .ok [] ∧
      hashPassword password d.salts.draw.1 settings.rounds = .ok hash ∧
      d.store.collections.Gains d'.store.collections users id e ∧ e.read id = .ok user ∧ IsUser members hash e := by
  cases h with
  | mk hbody hfree hhash hadd =>
    rcases add_user d.store _ _ with ⟨f, hrefused⟩ | ⟨e, s', hadded, hgains, huser⟩
    · cases hrefused.symm.trans hadd
    · obtain ⟨hread, rfl⟩ := Prod.ext_iff.mp (hadded.symm.trans hadd)
      exact ⟨_, _, _, _, _, e, hbody, hfree, hhash, hgains, hread, huser⟩

/-- Of a JSON body all fields are stored but the store's own and the password. -/
theorem Enrolls.gains {settings : Settings} {d d' : Directory} {v : Value} {user : Record}
    (h : Enrolls settings d (.ofValue v) user d') :
    ∃ members id e, v = .object members ∧ d.store.collections.Gains d'.store.collections users id e ∧
      e.read id = .ok user ∧
      ∀ field, isSystem field = false → field ≠ passwordField → field ≠ Query.passwordHash →
        e.record.get? field = Keyed.get? members field := by
  obtain ⟨_, _, _, _, id, e, hbody, -, -, hgains, hread, huser⟩ := h.stores
  obtain ⟨ms, rfl, rfl⟩ := Draft.members?_ofValue (credentials_ok hbody)
  refine ⟨ms, id, e, rfl, hgains, hread, fun field hf hpassword hhash => ?_⟩
  rw [huser.given field hf hpassword hhash, Draft.get?_ofMembers]
  cases Keyed.get? ms field with
  | none => rfl
  | some w => exact congrArg Except.toOption (Draft.check_ofValue w)

end Account

end DocumentStore
