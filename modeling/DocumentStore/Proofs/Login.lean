/-
  DocumentStore.Proofs.Login — who has registered can log in, with that password.

  A registration that succeeds stores the one user who is known by the name it gives (`Enrolls.known`).
  No call changes a user, and no later registration adds one whom a look-up for the name would find, so
  that user stays the only one (`Known.register`, `Known.after`). A login by the name, letter case aside,
  then comes to what the comparison of the keys comes to:
  - `registered_logs_in`: it succeeds exactly if the password has the key that is stored and a token can
    be signed for the new session; else it fails like one by an unknown name and changes nothing.
  - `password_without_octets_is_no_wrong_password`: but a password that cannot be written in octets has no
    key, and a login with one fails with another failure than a wrong password does.
-/

import DocumentStore.Proofs.Identities
import DocumentStore.Proofs.StoredHash

namespace DocumentStore.Account

open Store (Entry idField isSystem)
open Collections (lookupSame)

/-! ## Calls -/

inductive Reaches (settings : Settings) (d : Directory) : Directory → Prop
  | start : Reaches settings d d
  | register {d' : Directory} (h : Reaches settings d d') (body : Draft) :
      Reaches settings d (register settings d' body).2
  | login {d' : Directory} (h : Reaches settings d d') (body : Draft) : Reaches settings d (login settings d' body).2
  | logout {d' : Directory} (h : Reaches settings d d') (token : Option String) : Reaches settings d (logout d' token).2

structure Gives (settings : Settings) (body : Draft) (name password : String) : Prop where
  identity : (body.members?.getD []).get? settings.identity = some (.text name)
  password : (body.members?.getD []).get? passwordField = some (.text password)

def answersTo (settings : Settings) (name : String) (f : String × Entry) : Bool :=
  (f.2.record.get? settings.identity).any (lookupSame (.text name))

/-- The entry is that of a user, and no other user is found by the name. -/
structure Known (settings : Settings) (cs : Collections) (name id : String) (e : Entry) : Prop where
  stored : cs.stored? users id = some e
  alone : (cs.named users).filter (answersTo settings name) = [(id, e)]

structure HasHash (settings : Settings) (name salt key : String) (user : Record) : Prop where
  identity : user.get? settings.identity = some (.text name)
  password : user.get? passwordField = none
  hash : user.get? Query.passwordHash = some (.text (hashText settings.rounds salt key))

/-- What a login by the name of a user comes to, with a password: it succeeds exactly if that has the key
that is stored and a token can be signed for the new session, and then gives out the user without the
hash. With another key it fails, and nothing changes. -/
structure ComesTo (settings : Settings) (d : Directory) (body : Draft) (password salt key : String) (user : Record) :
    Prop where
  succeeds : (∃ answer d', login settings d body = (.ok answer, d')) ↔
    deriveKey password salt settings.rounds = .ok key ∧
      Text.isEncodable (d.store.nextId sessions).1.toList = true
  answer : ∀ answer d', login settings d body = (.ok answer, d') →
    ∃ token, answer = (publicUser user).put tokenField (.text token)
  fails : deriveKey password salt settings.rounds ≠ .ok key →
    login settings d body =
      (.error (if Text.isEncodable password.toList then .credential .login else .unencodable password), d)

section

variable {settings : Settings} {cs cs' : Collections} {d d' d₁ : Directory} {body : Draft}
  {name password id : String} {e : Entry} {user answer : Record}

theorem Gives.members? (h : Gives settings body name password) : ∃ members, body.members? = some members ∧
    members.get? settings.identity = some (.text name) ∧ members.get? passwordField = some (.text password) := by
  obtain ⟨hidentity, hpassword⟩ := h
  cases hm : body.members? with
  | none =>
    rw [hm] at hidentity
    cases hidentity
  | some members =>
    rw [hm] at hidentity hpassword
    exact ⟨members, rfl, hidentity, hpassword⟩

/-! ## Finding a user by name -/

theorem lookupSame_text_iff {w : Value} :
    lookupSame (.text name) w = true ↔ ∃ other, w = .text other ∧ Text.fold other = Text.fold name := by
  cases w with
  | text other =>
    have hfold : Text.fold other = Text.fold name ↔ Text.foldChars name.toList = Text.foldChars other.toList := by
      simp only [Text.fold, String.ofList_inj, eq_comm]
    simp [lookupSame, hfold]
  | _ => simp [lookupSame, Value.same, Value.quantity?, Value.number?]

/-- Letter case makes no difference to who is found. -/
theorem answersTo_congr {t : String} (h : Text.fold t = Text.fold name) :
    answersTo settings t = answersTo settings name := by
  have hsame : lookupSame (.text t) = lookupSame (.text name) := by
    funext w
    rw [Bool.eq_iff_iff, lookupSame_text_iff, lookupSame_text_iff, h]
  funext f
  rw [answersTo, answersTo, hsame]

theorem findUsers_text (hkeeps : settings.KeepsIdentity) (cs : Collections) (name : String) :
    findUsers settings cs (.text name) =
      Collections.readEntries ((cs.named users).filter (answersTo settings name)) :=
  findUsers_ofValue hkeeps cs (.text name)

theorem nobody_of_free (hkeeps : settings.KeepsIdentity)
    (h : findUsers settings cs (.text name) = .ok []) : (cs.named users).filter (answersTo settings name) = [] := by
  rwa [findUsers_text hkeeps, Collections.readEntries_eq_ok_iff, List.forall₂_nil_right_iff] at h

/-! ## Staying known -/

theorem Known.congr (h : Known settings cs name id e) (hsame : cs'.named users = cs.named users) :
    Known settings cs' name id e := by
  refine ⟨?_, by rw [hsame]; exact h.alone⟩
  rw [Collections.stored?, hsame]
  exact h.stored

/-- Another user beside does not matter if the name does not find it. -/
theorem Known.gains {id' : String} {e' : Entry} (h : Known settings cs name id e)
    (hgains : cs.Gains cs' users id' e') (hother : answersTo settings name (id', e') = false) :
    Known settings cs' name id e := by
  refine ⟨hgains.stored?_of_some h.stored, ?_⟩
  rw [hgains.here, List.filter_append, h.alone, List.filter_cons_of_neg (by rw [hother]; exact Bool.false_ne_true)]
  rfl

theorem withToken_named_users (settings : Settings) (d : Directory) (user : Record) :
    (withToken settings d user).2.store.collections.named users = d.store.collections.named users := by
  obtain ⟨-, e, hgains, -⟩ := withToken_spec settings d user
  exact hgains.elsewhere users (by decide)

theorem credentials_given {members : Draft.Members} {identity : Draft}
    (h : credentials settings body = .ok (members, identity, password)) :
    body.members? = some members ∧ members.get? settings.identity = some identity ∧
      members.get? passwordField = some (.text password) := by
  unfold credentials at h
  split at h
  · cases h
  rename_i hm
  split at h
  · rename_i hidentity hpassword
    split at h
    · cases h
      exact ⟨hm, hidentity, hpassword⟩
    · cases h
  · cases h

/-- A user is added under an identity by which nobody is found, or there is none more. -/
theorem register_users (settings : Settings) (d : Directory) (body : Draft) :
    (register settings d body).2.store.collections.named users = d.store.collections.named users ∨
      ∃ members identity password hash id e cs, credentials settings body = .ok (members, identity, password) ∧
        findUsers settings d.store.collections identity = .ok [] ∧ d.store.collections.Gains cs users id e ∧
        IsUser members hash e ∧
        (register settings d body).2.store.collections.named users = cs.named users := by
  unfold register
  split
  · exact Or.inl rfl
  rename_i members identity password hbody
  split
  · exact Or.inl rfl
  · exact Or.inl rfl
  rename_i hfree
  dsimp only
  split
  · exact Or.inl rfl
  rename_i hash hhash
  rcases add_user d.store members hash with ⟨f, hrefused⟩ | ⟨e, s', hadd, hgains, huser⟩
  · rw [hrefused]
    cases f <;> exact Or.inl rfl
  · refine Or.inr ⟨members, identity, password, hash, _, e, _, hbody, hfree, hgains, huser, ?_⟩
    rw [hadd]
    cases e.read (d.store.nextId users).1 with
    | error f => cases f <;> rfl
    | ok user => exact withToken_named_users ..

/-- Only a text is stored as a text. -/
theorem eq_text_of_check {draft : Draft} (h : draft.check = .ok (.text name)) : draft = .text name := by
  cases draft with
  | text other =>
    cases h
    rfl
  | list items =>
    obtain ⟨vs, -, ⟨⟩⟩ := Result.map_eq_ok.mp h
  | tuple items =>
    obtain ⟨vs, -, ⟨⟩⟩ := Result.map_eq_ok.mp h
  | object members =>
    obtain ⟨ms, -, ⟨⟩⟩ := Result.map_eq_ok.mp h
  | _ => cases h

/-- A registration leaves who is known alone, since another body with the name would be refused. -/
theorem Known.register (hkeeps : settings.KeepsIdentity) (h : Known settings d.store.collections name id e)
    (body : Draft) : Known settings (register settings d body).2.store.collections name id e := by
  rcases register_users settings d body with
    hsame | ⟨members, identity, password, hash, id', e', cs, hbody, hfree, hgains, huser, hsame⟩
  · exact h.congr hsame
  refine (h.gains hgains (Bool.eq_false_iff.mpr fun hanswers => ?_)).congr hsame
  obtain ⟨w, hw, hlook⟩ := (Option.any_eq_true _ _).mp hanswers
  obtain ⟨other, rfl, hfold⟩ := lookupSame_text_iff.mp hlook
  obtain ⟨-, hidentity, -⟩ := credentials_given hbody
  rw [huser.given _ hkeeps.own hkeeps.password hkeeps.hash, hidentity, Option.bind_some] at hw
  obtain rfl : identity = .text other := eq_text_of_check (Result.toOption_eq_some.mp hw)
  have hnone := nobody_of_free hkeeps hfree
  rw [answersTo_congr hfold, h.alone] at hnone
  cases hnone

/-- So does every call. -/
theorem Known.after (hkeeps : settings.KeepsIdentity) (h : Known settings d.store.collections name id e)
    (hreaches : Reaches settings d d') : Known settings d'.store.collections name id e := by
  induction hreaches with
  | start => exact h
  | register _ body ih => exact ih.register hkeeps body
  | @login d' _ body ih =>
    refine ih.congr ?_
    unfold Account.login
    split
    · rfl
    · exact withToken_named_users ..
  | @logout d' _ token ih =>
    rcases logout_spec d' token with ⟨f, hout⟩ | ⟨text, session, s, -, -, hloses, hout⟩
    · rw [hout]
      exact ih
    · rw [hout]
      exact ih.congr (hloses.elsewhere users (by decide))

/-! ## Registering -/

theorem exists_enrolls_of_register (h : register settings d body = (.ok answer, d₁)) :
    ∃ user d', Enrolls settings d body user d' ∧ withToken settings d' user = (.ok answer, d₁) := by
  unfold Account.register at h
  split at h
  · cases h
  rename_i hbody
  split at h
  · cases h
  · cases h
  rename_i hfree
  dsimp only at h
  split at h
  · cases h
  rename_i hhash
  split at h
  · cases h
  · cases h
  · rename_i hadd
    exact ⟨_, _, .mk hbody hfree hhash hadd, h⟩

/-- Who has registered by a name is known by it, and is stored with the hash in place of the password. -/
theorem Enrolls.known (hkeeps : settings.KeepsIdentity) (hbody : Gives settings body name password)
    (h : Enrolls settings d body user d') :
    ∃ id e key, Known settings d'.store.collections name id e ∧ e.read id = .ok user ∧
      deriveKey password d.salts.draw.1 settings.rounds = .ok key ∧
      HasHash settings name d.salts.draw.1 key user := by
  obtain ⟨members, identity, _, hash, id, e, hgiven, hfree, hhash, hgains, hread, huser⟩ := h.stores
  obtain ⟨hm, hidentity, hpassword⟩ := credentials_given hgiven
  obtain ⟨ms, hms, hname, hword⟩ := hbody.members?
  obtain rfl : members = ms := Option.some.inj (hm.symm.trans hms)
  obtain rfl : identity = .text name := Option.some.inj (hidentity.symm.trans hname)
  cases hpassword.symm.trans hword
  obtain ⟨key, hkey, rfl⟩ := Result.map_eq_ok.mp hhash
  have hstored : e.record.get? settings.identity = some (.text name) := by
    rw [huser.given _ hkeeps.own hkeeps.password hkeeps.hash, hidentity]
    rfl
  have hanswers : answersTo settings name (id, e) = true := by
    rw [answersTo, hstored, Option.any_some]
    exact lookupSame_text_iff.mpr ⟨name, rfl, rfl⟩
  refine ⟨id, e, key, ⟨hgains.stored?_self, ?_⟩, hread, hkey, ?_, ?_, ?_⟩
  · rw [hgains.here, List.filter_append, nobody_of_free hkeeps hfree, List.filter_cons_of_pos hanswers]
    rfl
  · exact (Entry.get?_read hread hkeeps.own).trans hstored
  · exact (Entry.get?_read hread (by decide)).trans huser.password
  · exact (Entry.get?_read hread (by decide)).trans huser.hash

/-- Who has registered is known, and was given a token that could be signed. -/
theorem known_of_register (hkeeps : settings.KeepsIdentity) (hbody : Gives settings body name password)
    (h : register settings d body = (.ok answer, d₁)) :
    ∃ id e user key, Known settings d₁.store.collections name id e ∧ e.read id = .ok user ∧
      deriveKey password d.salts.draw.1 settings.rounds = .ok key ∧ HasHash settings name d.salts.draw.1 key user ∧
      ∃ id' token, signToken id' settings.secret = .ok token ∧
        answer = (publicUser user).put tokenField (.text token) := by
  obtain ⟨user, d₀, henrolls, hwith⟩ := exists_enrolls_of_register h
  obtain ⟨id, e, key, hknown, hread, hkey, huser⟩ := henrolls.known hkeeps hbody
  have hanswer := (withToken_spec settings d₀ user).1
  have hsame := withToken_named_users settings d₀ user
  rw [hwith] at hanswer hsame
  obtain ⟨token, hsigned, hgiven⟩ := Result.map_eq_ok.mp hanswer.symm
  exact ⟨id, e, user, key, hknown.congr hsame, hread, hkey, huser, _, token, hsigned, hgiven.symm⟩

/-! ## Logging in -/

/-- What a login by a name under which one user is known comes to. -/
theorem Known.authenticate_eq (hkeeps : settings.KeepsIdentity) (h : Known settings cs name id e)
    (hread : e.read id = .ok user) {hash t q : String} (hhash : user.get? Query.passwordHash = some (.text hash))
    (ht : Text.fold t = Text.fold name) (hbody : Gives settings body t q) :
    authenticate settings cs body =
      (verifyPassword q hash).bind fun same => if same then .ok user else loginFailed := by
  obtain ⟨members, hm, hidentity, hpassword⟩ := hbody.members?
  have hfound : findUsers settings cs (.text t) = .ok [user] := by
    rw [findUsers_text hkeeps, answersTo_congr ht, h.alone, Collections.readEntries, hread]
    rfl
  simp only [authenticate, hm, hidentity, hpassword, Option.getD_some, hfound, hhash]
  cases verifyPassword q hash with
  | error f => rfl
  | ok same => cases same <;> rfl

/-- A login by a name by which nobody is found. -/
theorem login_of_unknown (hkeeps : settings.KeepsIdentity) {t q : String} (hbody : Gives settings body t q)
    (hnone : ∀ w ∈ identities settings d.store.collections, lookupSame (.text t) w = false) :
    login settings d body = (.error (.credential .login), d) := by
  obtain ⟨members, hm, hidentity, -⟩ := hbody.members?
  have hfound : findUsers settings d.store.collections (.text t) = .ok [] := (findUsers_eq_nil_iff hkeeps).mpr hnone
  have hfails : authenticate settings d.store.collections body = .error (.credential .login) := by
    simp only [authenticate, hm, hidentity, Option.getD_some, hfound]
    rfl
  simp only [login, hfails]

/-- A login by the name of a user with a hash. -/
theorem Known.login_eq (hkeeps : settings.KeepsIdentity) (h : Known settings d.store.collections name id e)
    (hread : e.read id = .ok user) {salt key t q : String} (hsalt : salt ≠ "") (hfree : '$' ∉ salt.toList)
    (hkey : deriveKey password salt settings.rounds = .ok key) (huser : HasHash settings name salt key user)
    (ht : Text.fold t = Text.fold name) (hbody : Gives settings body t q) :
    login settings d body =
      if deriveKey q salt settings.rounds = .ok key then withToken settings d user
      else (.error (if Text.isEncodable q.toList then .credential .login else .unencodable q), d) := by
  have hauth := h.authenticate_eq hkeeps hread huser.hash ht hbody
  rw [verifyPassword_hashText hsalt hfree hkey] at hauth
  rw [login, hauth]
  rcases deriveKey_cases hkey q with ⟨hencodable, key', hq⟩ | ⟨hencodable, hq⟩
  · rw [hq, hencodable]
    by_cases hsame : key' = key
    · simp [Except.map, Except.bind, hsame]
    · simp [Except.map, Except.bind, hsame, loginFailed]
  · rw [hq, hencodable]
    simp [Except.map, Except.bind]

/-- Where one token was signed, every other id has a token if it can be written in octets. -/
theorem signToken_isOk_iff {id secret token : String} (h : signToken id secret = .ok token) (other : String) :
    (∃ token', signToken other secret = .ok token') ↔ Text.isEncodable other.toList = true := by
  obtain ⟨bytes, hsecret, -⟩ := Result.bind_eq_ok.mp h
  have hsign : signToken other secret =
      (octets other).bind fun value => .ok (Digest.hmac (Digest.Key.of bytes) value).hexText := by
    unfold signToken
    rw [hsecret]
    rfl
  rw [hsign, octets]
  by_cases hencodable : Text.isEncodable other.toList = true
  · simp [hencodable, Except.bind]
  · simp [hencodable, Except.bind]

theorem Known.comesTo (hkeeps : settings.KeepsIdentity) (h : Known settings d.store.collections name id e)
    (hread : e.read id = .ok user) {salt key t q : String} (hsalt : salt ≠ "") (hfree : '$' ∉ salt.toList)
    (hkey : deriveKey password salt settings.rounds = .ok key) (huser : HasHash settings name salt key user)
    {id' token : String} (hsigned : signToken id' settings.secret = .ok token)
    (ht : Text.fold t = Text.fold name) (hbody : Gives settings body t q) :
    ComesTo settings d body q salt key user := by
  have hlogin := h.login_eq hkeeps hread hsalt hfree hkey huser ht hbody
  by_cases hsame : deriveKey q salt settings.rounds = .ok key
  · rw [if_pos hsame] at hlogin
    have htoken := (withToken_spec settings d user).1
    rw [← hlogin] at htoken
    refine ⟨?_, ?_, fun hne => absurd hsame hne⟩
    · rw [← signToken_isOk_iff hsigned, and_iff_right hsame]
      constructor
      · rintro ⟨answer, d', hok⟩
        rw [hok] at htoken
        obtain ⟨token', htoken', -⟩ := Result.map_eq_ok.mp htoken.symm
        exact ⟨token', htoken'⟩
      · rintro ⟨token', htoken'⟩
        rw [htoken'] at htoken
        exact ⟨_, _, Prod.ext htoken rfl⟩
    · intro answer d' hok
      rw [hok] at htoken
      obtain ⟨token', -, hanswer⟩ := Result.map_eq_ok.mp htoken.symm
      exact ⟨token', hanswer.symm⟩
  · rw [if_neg hsame] at hlogin
    refine ⟨?_, ?_, fun _ => hlogin⟩
    · rw [hlogin]
      constructor
      · rintro ⟨_, _, ⟨⟩⟩
      · exact fun h => absurd h.1 hsame
    · intro _ _ hok
      rw [hlogin] at hok
      cases hok

/-- Who has registered by a name and with a password is stored from then on as the same user, who has a hash
in place of the password. Whatever has been registered, logged in or out since, a login by the name, in
whatever letter case, comes to whether its password has the key that the first one has. By a name that is no
user's it fails, and nothing changes. -/
theorem registered_logs_in (hkeeps : settings.KeepsIdentity) (hbody : Gives settings body name password)
    (hsalt : d.salts.draw.1 ≠ "") (hfree : '$' ∉ d.salts.draw.1.toList)
    (h : register settings d body = (.ok answer, d₁)) :
    ∃ id user key, deriveKey password d.salts.draw.1 settings.rounds = .ok key ∧
      HasHash settings name d.salts.draw.1 key user ∧
      (∃ token, answer = (publicUser user).put tokenField (.text token)) ∧
      ∀ d', Reaches settings d₁ d' →
        d'.store.collections.getOne users id = .ok user ∧
        ∀ body' t q, Gives settings body' t q →
          (Text.fold t = Text.fold name → ComesTo settings d' body' q d.salts.draw.1 key user) ∧
          ((∀ w ∈ identities settings d'.store.collections, lookupSame (.text t) w = false) →
            login settings d' body' = (.error (.credential .login), d')) := by
  obtain ⟨id, e, user, key, hfirst, hread, hkey, huser, _, token, hsigned, hanswer⟩ :=
    known_of_register hkeeps hbody h
  refine ⟨id, user, key, hkey, huser, ⟨token, hanswer⟩, fun d' hreaches => ?_⟩
  have hlater := hfirst.after hkeeps hreaches
  refine ⟨Collections.getOne_eq_ok_iff.mpr ⟨e, hlater.stored, hread⟩, fun body' t q hgives => ⟨fun ht => ?_, ?_⟩⟩
  · exact hlater.comesTo hkeeps hread hsalt hfree hkey huser hsigned ht hgives
  · exact login_of_unknown hkeeps hgives

end

/-! ### Ann's password -/

def credentialsOf (name password : String) : Draft := .object [("username", .text name), ("password", .text password)]

def newAccounts : Directory := ⟨⟨[], .numbered ["u1", "s1", "s2"], .ofReadings 1000 []⟩, .given []⟩

theorem gives_credentialsOf (name password : String) :
    Gives firstSettings (credentialsOf name password) name password :=
  ⟨rfl, rfl⟩

theorem keepsIdentity_firstSettings : firstSettings.KeepsIdentity := ⟨by decide, by decide, by decide⟩

theorem register_newAccounts : ∃ answer d₁,
    register firstSettings newAccounts (credentialsOf "ann" "sesame") = (.ok answer, d₁) ∧
      (d₁.store.nextId sessions).1 = "s2" ∧ identities firstSettings d₁.store.collections = [.text "ann"] :=
  ⟨_, _, rfl, rfl, rfl⟩

/-- Ann logs in by her name in capitals. -/
theorem registered_logs_in_ann : ∃ answer d₁,
    register firstSettings newAccounts (credentialsOf "ann" "sesame") = (.ok answer, d₁) ∧
      firstSettings.KeepsIdentity ∧ Gives firstSettings (credentialsOf "ann" "sesame") "ann" "sesame" ∧
      newAccounts.salts.draw.1 ≠ "" ∧ '$' ∉ newAccounts.salts.draw.1.toList ∧
      ∃ answer' d', login firstSettings d₁ (credentialsOf "ANN" "sesame") = (.ok answer', d') := by
  obtain ⟨answer, d₁, h, hid, -⟩ := register_newAccounts
  have hsalt : newAccounts.salts.draw.1 ≠ "" := by decide
  have hfree : '$' ∉ newAccounts.salts.draw.1.toList := by decide
  obtain ⟨id, user, key, hkey, -, -, hlater⟩ :=
    registered_logs_in keepsIdentity_firstSettings (gives_credentialsOf "ann" "sesame") hsalt hfree h
  have hlogin := ((hlater d₁ .start).2 _ _ _ (gives_credentialsOf "ANN" "sesame")).1 (by decide)
  refine ⟨answer, d₁, h, keepsIdentity_firstSettings, gives_credentialsOf "ann" "sesame", hsalt, hfree, ?_⟩
  exact hlogin.succeeds.mpr ⟨hkey, by rw [hid]; decide⟩

def halfCharacter : String := String.singleton (Text.charOfCode 0xd800)

/-- Such a text is not Ann's password, but a login with it does not fail like one by a name that nobody has. -/
theorem password_without_octets_is_no_wrong_password : ∃ answer d₁,
    register firstSettings newAccounts (credentialsOf "ann" "sesame") = (.ok answer, d₁) ∧
      login firstSettings d₁ (credentialsOf "bob" halfCharacter) = (.error (.credential .login), d₁) ∧
      login firstSettings d₁ (credentialsOf "ann" halfCharacter) = (.error (.unencodable halfCharacter), d₁) := by
  obtain ⟨answer, d₁, h, -, hnames⟩ := register_newAccounts
  obtain ⟨id, e, user, key, hknown, hread, hkey, huser, -⟩ :=
    known_of_register keepsIdentity_firstSettings (gives_credentialsOf "ann" "sesame") h
  have hencodable : Text.isEncodable halfCharacter.toList = false := by decide
  refine ⟨answer, d₁, h, ?_, ?_⟩
  · refine login_of_unknown keepsIdentity_firstSettings (gives_credentialsOf "bob" halfCharacter) ?_
    rw [hnames]
    decide
  · have hlogin := hknown.login_eq keepsIdentity_firstSettings hread (by decide) (by decide) hkey huser rfl
      (gives_credentialsOf "ann" halfCharacter)
    rw [hlogin, if_neg, hencodable]
    · rfl
    · rcases deriveKey_cases hkey halfCharacter with ⟨htrue, -⟩ | ⟨-, hno⟩
      · rw [hencodable] at htrue
        cases htrue
      · rw [hno]
        rintro ⟨⟩

end DocumentStore.Account
