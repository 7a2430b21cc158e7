/-
  DocumentStore.Proofs.Identities — no two users are known by the same identity.

  A registration looks for users of the identity that its body gives, and adds a user only if there
  is none. What is stored then is the body's own value, since it is none of the fields that a store
  and a registration take for themselves (`Settings.KeepsIdentity`). Nothing else adds a user, and
  nothing changes one.
  - `identities_stay_unique`: so identities that differ at first differ after any calls, whichever of
    two is looked up. A registration is refused for its identity exactly if some user has the same
    and a password is given.
  It makes no difference which of two is asked for, as sameness in a look-up is symmetric
  (`lookupSame_symm`).
-/

import DocumentStore.Proofs.Accounts
import DocumentStore.Proofs.Sameness

namespace DocumentStore.Account

open Store (Entry idField isSystem)
open Collections (lookupSame lookupSame_symm lookupSame_trans)

/-! ## Identities -/

/-- The identity is a field that a new user is stored with as the body gives it. -/
structure Settings.KeepsIdentity (settings : Settings) : Prop where
  own : isSystem settings.identity = false
  password : settings.identity ≠ passwordField
  hash : settings.identity ≠ Query.passwordHash

def identities (settings : Settings) (cs : Collections) : List Value :=
  (cs.named users).filterMap fun f => f.2.record.get? settings.identity

/-- No two of the values are the same in a look-up, whichever is asked for. -/
def AllDiffer (values : List Value) : Prop :=
  values.Pairwise fun v w => lookupSame v w = false ∧ lookupSame w v = false

structure IdentitiesUnique (settings : Settings) (cs : Collections) : Prop where
  differ : AllDiffer (identities settings cs)
  namesDistinct : ∀ v ∈ identities settings cs, v.namesDistinct = true

section

variable {settings : Settings} {cs cs' : Collections} {d d' : Directory} {v w body : Value} {user : Record}
  {id : String} {e : Entry}

theorem Settings.KeepsIdentity.ne_idField (h : settings.KeepsIdentity) : settings.identity ≠ idField :=
  Store.ne_of_isSystem Store.isSystem_idField h.own

theorem mem_identities_iff : w ∈ identities settings cs ↔
    ∃ f ∈ cs.named users, f.2.record.get? settings.identity = some w := List.mem_filterMap

theorem identities_congr (h : cs'.named users = cs.named users) : identities settings cs' = identities settings cs := by
  rw [identities, identities, h]

theorem identities_of_gains (h : cs.Gains cs' users id e) (hv : e.record.get? settings.identity = some v) :
    identities settings cs' = identities settings cs ++ [v] := by
  rw [identities, h.here, List.filterMap_append, List.filterMap_cons, hv]
  rfl

theorem AllDiffer.append {values : List Value} (h : AllDiffer values) (hv : v.namesDistinct = true)
    (hvalues : ∀ w ∈ values, w.namesDistinct = true) (hnone : ∀ w ∈ values, lookupSame v w = false) :
    AllDiffer (values ++ [v]) := by
  refine List.pairwise_append.mpr ⟨h, List.pairwise_singleton _ v, fun w hw x hx => ?_⟩
  rw [List.mem_singleton.mp hx]
  refine ⟨Bool.eq_false_iff.mpr fun hsame => ?_, hnone w hw⟩
  exact Bool.false_ne_true ((hnone w hw).symm.trans (lookupSame_symm (hvalues w hw) hv hsame))

/-! ## Looking for users -/

/-- Users are found by the identity that they are stored with. -/
theorem findUsers_ofValue (hkeeps : settings.KeepsIdentity) (cs : Collections) (v : Value) :
    findUsers settings cs (.ofValue v) = Collections.readEntries
      ((cs.named users).filter fun f => (f.2.record.get? settings.identity).any (lookupSame v)) := by
  have hmeets : ∀ f : String × Entry, Collections.meetsAll [(settings.identity, v)] f.1 f.2 =
      (f.2.record.get? settings.identity).any (lookupSame v) := fun f => by
    have hget : Keyed.get? (f.2.record.put idField (.text f.1)) settings.identity =
        f.2.record.get? settings.identity := Keyed.get?_put_of_ne _ hkeeps.ne_idField _
    simp only [Collections.meetsAll, List.all_cons, List.all_nil, Bool.and_true, hget]
    cases f.2.record.get? settings.identity <;> rfl
  unfold findUsers Collections.findExact Collections.collection Collections.named Keyed.has
  rw [Draft.asValue?_ofValue]
  cases cs.get? (.text users) with
  | none => rfl
  | some c =>
    dsimp only [Option.isSome, Option.getD_some]
    rw [← funext hmeets]
    rfl

theorem findUsers_eq_nil_iff (hkeeps : settings.KeepsIdentity) :
    findUsers settings cs (.ofValue v) = .ok [] ↔ ∀ w ∈ identities settings cs, lookupSame v w = false := by
  rw [findUsers_ofValue hkeeps, Collections.readEntries_eq_ok_iff, List.forall₂_nil_right_iff, List.filter_eq_nil_iff]
  constructor
  · intro h w hw
    obtain ⟨f, hf, hget⟩ := mem_identities_iff.mp hw
    have hnone := h f hf
    rwa [hget, Option.any_some, Bool.not_eq_true] at hnone
  · intro h f hf hany
    obtain ⟨w, hget, hsame⟩ := (Option.any_eq_true _ _).mp hany
    exact Bool.false_ne_true ((h w (mem_identities_iff.mpr ⟨f, hf, hget⟩)).symm.trans hsame)

/-- Where identities differ no two users have the identity that is looked for. -/
theorem IdentitiesUnique.length_le_one (h : IdentitiesUnique settings cs) (hv : v.namesDistinct = true) :
    ((cs.named users).filter fun f => (f.2.record.get? settings.identity).any (lookupSame v)).length ≤ 1 := by
  have hpairs := (List.pairwise_filterMap.mp h.differ).filter
    fun f => (f.2.record.get? settings.identity).any (lookupSame v)
  generalize hmatched : (cs.named users).filter
    (fun f => (f.2.record.get? settings.identity).any (lookupSame v)) = matched at hpairs ⊢
  match matched with
  | [] => exact Nat.zero_le 1
  | [_] => exact Nat.le_refl 1
  | f :: g :: rest =>
    have hmem : ∀ x ∈ f :: g :: rest, x ∈ cs.named users ∧ ∃ w, x.2.record.get? settings.identity = some w ∧
        lookupSame v w = true := fun x hx => by
      rw [← hmatched, List.mem_filter, Option.any_eq_true] at hx
      exact hx
    obtain ⟨hf, a, ha, hva⟩ := hmem f List.mem_cons_self
    obtain ⟨-, b, hb, hvb⟩ := hmem g (List.mem_cons_of_mem f List.mem_cons_self)
    have hdiffer := (List.pairwise_cons.mp hpairs).1 g List.mem_cons_self a ha b hb
    have hav := lookupSame_symm hv (h.namesDistinct a (mem_identities_iff.mpr ⟨f, hf, ha⟩)) hva
    exact absurd (hdiffer.1.symm.trans (lookupSame_trans hav hvb)) Bool.false_ne_true

/-- So whoever is stored with an identity is found alone by it. -/
theorem IdentitiesUnique.findUsers_of_holds (h : IdentitiesUnique settings cs) (hkeeps : settings.KeepsIdentity)
    (hv : v.namesDistinct = true) (hu : cs.Holds users user) (hw : user.get? settings.identity = some w)
    (hsame : lookupSame v w = true) : findUsers settings cs (.ofValue v) = .ok [user] := by
  obtain ⟨c, id, e, hc, hm, hread⟩ := hu
  have hnamed : (id, e) ∈ cs.named users := by rwa [Collections.named, hc, Option.getD_some]
  rw [Entry.get?_read_of_ne hread hkeeps.ne_idField] at hw
  have hmatched : (id, e) ∈ (cs.named users).filter fun f =>
      (f.2.record.get? settings.identity).any (lookupSame v) := by
    rw [List.mem_filter, hw, Option.any_some]
    exact ⟨hnamed, hsame⟩
  have hone := h.length_le_one hv
  obtain ⟨f, hf⟩ := List.length_eq_one_iff.mp (Nat.le_antisymm hone (List.length_pos_of_mem hmatched))
  rw [hf, List.mem_singleton] at hmatched
  rw [findUsers_ofValue hkeeps, hf, ← hmatched, Collections.readEntries, hread]
  rfl

/-- Who is found is a user who is stored with an identity that is the same. -/
theorem holds_of_findUsers_identity (hkeeps : settings.KeepsIdentity) {found : List Record}
    (h : findUsers settings cs (.ofValue v) = .ok found) (hm : user ∈ found) :
    cs.Holds users user ∧ ∃ w, user.get? settings.identity = some w ∧ lookupSame v w = true := by
  refine ⟨holds_of_findUsers h hm, ?_⟩
  rw [findUsers_ofValue hkeeps] at h
  obtain ⟨id, e, he, hread⟩ := Collections.mem_readEntries h hm
  obtain ⟨w, hw, hsame⟩ := (Option.any_eq_true _ _).mp (List.mem_filter.mp he).2
  exact ⟨w, (Entry.get?_read_of_ne hread hkeeps.ne_idField).trans hw, hsame⟩

/-! ## Registrations -/

/-- What a JSON body must give. -/
theorem credentials_ofValue {members : Draft.Members} {identity : Draft} {password : String} :
    credentials settings (.ofValue body) = .ok (members, identity, password) ↔
      ∃ ms v, body = .object ms ∧ members = Draft.ofMembers ms ∧ identity = .ofValue v ∧
        Keyed.get? ms settings.identity = some v ∧ v.truthy = true ∧
        Keyed.get? ms passwordField = some (.text password) ∧ password ≠ "" := by
  constructor
  · intro h
    obtain ⟨ms, rfl, rfl⟩ := Draft.members?_ofValue (credentials_ok h)
    simp only [credentials, Draft.ofValue, Draft.members?, Draft.get?_ofMembers] at h
    split at h
    · rename_i draft text hidentity hpassword
      split at h
      · rename_i hgiven
        obtain ⟨v, hv, rfl⟩ := Option.map_eq_some_iff.mp hidentity
        obtain ⟨p, hp, htext⟩ := Option.map_eq_some_iff.mp hpassword
        cases h
        cases p with
        | text p =>
          cases htext
          rw [Bool.and_eq_true, Draft.truthy_ofValue, Bool.not_eq_true', String.isEmpty_eq_false_iff] at hgiven
          exact ⟨ms, v, rfl, rfl, rfl, hv, hgiven.1, hp, hgiven.2⟩
        | _ => cases htext
      · cases h
    · cases h
  · rintro ⟨ms, v, rfl, rfl, rfl, hv, htruthy, hp, hne⟩
    simp [credentials, Draft.ofValue, Draft.members?, Draft.get?_ofMembers, hv, hp, Draft.truthy_ofValue, htruthy, hne]

def IsTaken (f : Failure) : Prop := ∃ identity, f = .taken identity

theorem credentials_error {draft : Draft} {f : Failure} (h : credentials settings draft = .error f) : ¬ IsTaken f := by
  unfold credentials at h
  repeat' split at h
  all_goals cases h
  all_goals rintro ⟨identity, ⟨⟩⟩

theorem findUsers_error (hkeeps : settings.KeepsIdentity) {f : Failure}
    (h : findUsers settings cs (.ofValue v) = .error f) : ¬ IsTaken f := by
  rw [findUsers_ofValue hkeeps] at h
  obtain ⟨kind, rfl⟩ := Collections.readEntries_eq_error h
  rintro ⟨identity, ⟨⟩⟩

theorem hashPassword_error {password salt : String} {rounds : Int} {f : Failure}
    (h : hashPassword password salt rounds = .error f) : ¬ IsTaken f := by
  rintro ⟨identity, rfl⟩
  rcases Result.bind_eq_error.mp (Result.map_eq_error.mp h) with h | ⟨key, -, h⟩
  · cases octets_error h
  rcases Result.bind_eq_error.mp h with h | ⟨bytes, -, h⟩
  · cases octets_error h
  -- Here only the number of rounds can be refused.
  repeat' split at h
  all_goals cases h

/-- A registration is refused for its identity if users are found by it, and only then. -/
theorem register_taken_iff (hkeeps : settings.KeepsIdentity) :
    (register settings d (.ofValue body)).1 = .error (.taken settings.identity) ↔
      ∃ members identity password, credentials settings (.ofValue body) = .ok (members, identity, password) ∧
        ∃ user others, findUsers settings d.store.collections identity = .ok (user :: others) := by
  constructor
  · intro h
    have htaken : IsTaken (.taken settings.identity) := ⟨_, rfl⟩
    have hresult := h
    unfold register at h
    split at h
    · rename_i hbody
      cases h
      exact absurd htaken (credentials_error hbody)
    rename_i members identity password hbody
    obtain ⟨_, v, _, _, rfl, _⟩ := credentials_ofValue.mp hbody
    split at h
    · rename_i hfind
      cases h
      exact absurd htaken (findUsers_error hkeeps hfind)
    · rename_i user others hfind
      exact ⟨_, _, _, hbody, user, others, hfind⟩
    dsimp only at h
    split at h
    · rename_i hhash
      cases h
      exact absurd htaken (hashPassword_error hhash)
    · rename_i hfree _ _ hhash
      obtain ⟨user, d', henrolls⟩ := exists_enrolls hbody hfree hhash
      rw [henrolls.register_eq, (withToken_spec settings d' user).1] at hresult
      obtain ⟨text, ⟨⟩⟩ := signToken_error (Result.map_eq_error.mp hresult)
  · rintro ⟨members, identity, password, hbody, user, others, hfind⟩
    simp only [register, hbody, hfind]

/-! ## Calls -/

theorem IdentitiesUnique.congr (h : IdentitiesUnique settings cs) (hsame : cs'.named users = cs.named users) :
    IdentitiesUnique settings cs' := by
  have hidentities : identities settings cs' = identities settings cs := identities_congr hsame
  exact ⟨by rw [hidentities]; exact h.differ, by rw [hidentities]; exact h.namesDistinct⟩

/-- A user who is enrolled has an identity that no user had. -/
theorem IdentitiesUnique.enrolls (h : IdentitiesUnique settings d.store.collections) (hkeeps : settings.KeepsIdentity)
    (hbody : body.namesDistinct = true) (henrolls : Enrolls settings d (.ofValue body) user d') :
    IdentitiesUnique settings d'.store.collections := by
  obtain ⟨members, id, e, rfl, hgains, -, hfields⟩ := henrolls.gains
  have hfield := hfields settings.identity hkeeps.own hkeeps.password hkeeps.hash
  cases henrolls with
  | mk hgiven hfree =>
    obtain ⟨_, v, ⟨⟩, -, rfl, hv, -⟩ := credentials_ofValue.mp hgiven
    have hnames := (Value.namesDistinct_object.mp hbody).2 _ (Keyed.mem_of_get? hv)
    have hnone := (findUsers_eq_nil_iff hkeeps).mp hfree
    have hidentities := identities_of_gains hgains (hfield.trans hv)
    constructor
    · rw [hidentities]
      exact h.differ.append hnames h.namesDistinct hnone
    · rw [hidentities]
      exact List.forall_mem_append.mpr ⟨h.namesDistinct, List.forall_mem_singleton.mpr hnames⟩

theorem IdentitiesUnique.run (h : IdentitiesUnique settings d.store.collections) (hkeeps : settings.KeepsIdentity)
    (c : AccountCall) (hc : c.body.namesDistinct = true) :
    IdentitiesUnique settings (c.run settings d).2.store.collections := by
  have hspec := c.run_spec settings d
  generalize c.run settings d = out at hspec ⊢
  cases hspec with
  | refused => exact h
  | @entered _ user d' henters =>
    obtain ⟨-, e, hgains, -⟩ := withToken_spec settings d' user
    refine IdentitiesUnique.congr ?_ (hgains.elsewhere users (by decide))
    cases henters with
    | register henrolls => exact h.enrolls hkeeps hc henrolls
    | login => exact h
  | left hfound hloses => exact h.congr (hloses.elsewhere users (by decide))

theorem IdentitiesUnique.after (h : IdentitiesUnique settings d.store.collections) (hkeeps : settings.KeepsIdentity)
    {calls : List AccountCall} (hcalls : ∀ c ∈ calls, c.body.namesDistinct = true) :
    IdentitiesUnique settings (afterCalls settings d calls).store.collections := by
  induction calls generalizing d with
  | nil => exact h
  | cons c rest ih =>
    obtain ⟨hc, hrest⟩ := List.forall_mem_cons.mp hcalls
    exact ih (h.run hkeeps c hc) hrest

/-- Where the identities of the users differ, they differ after any calls with JSON bodies. A
registration is then refused because its identity is taken exactly if its body gives an identity
that counts as true and a password, and some user is stored with an identity that is the same. -/
theorem identities_stay_unique (hkeeps : settings.KeepsIdentity) {calls : List AccountCall}
    (hunique : AllDiffer (identities settings d.store.collections))
    (hnames : ∀ v ∈ identities settings d.store.collections, v.namesDistinct = true)
    (hcalls : ∀ c ∈ calls, c.body.namesDistinct = true) :
    let after := afterCalls settings d calls
    AllDiffer (identities settings after.store.collections) ∧
      ∀ body : Value, body.namesDistinct = true →
        ((register settings after (.ofValue body)).1 = .error (.taken settings.identity) ↔
          ∃ members v password, body = .object members ∧ Keyed.get? members settings.identity = some v ∧
            v.truthy = true ∧ Keyed.get? members passwordField = some (.text password) ∧ password ≠ "" ∧
            ∃ user w, after.store.collections.Holds users user ∧ user.get? settings.identity = some w ∧
              lookupSame v w = true) := by
  intro after
  have hafter : IdentitiesUnique settings after.store.collections := IdentitiesUnique.after ⟨hunique, hnames⟩ hkeeps hcalls
  refine ⟨hafter.differ, fun body hbody => ?_⟩
  rw [register_taken_iff hkeeps]
  constructor
  · rintro ⟨_, _, password, hgiven, user, others, hfind⟩
    obtain ⟨members, v, rfl, -, rfl, hv, htruthy, hpassword, hne⟩ := credentials_ofValue.mp hgiven
    obtain ⟨hholds, w, hw, hsame⟩ := holds_of_findUsers_identity hkeeps hfind List.mem_cons_self
    exact ⟨members, v, password, rfl, hv, htruthy, hpassword, hne, user, w, hholds, hw, hsame⟩
  · rintro ⟨members, v, password, rfl, hv, htruthy, hpassword, hne, user, w, hholds, hw, hsame⟩
    have hnames := (Value.namesDistinct_object.mp hbody).2 _ (Keyed.mem_of_get? hv)
    exact ⟨_, _, password, credentials_ofValue.mpr ⟨members, v, rfl, rfl, rfl, hv, htruthy, hpassword, hne⟩, user, [],
      hafter.findUsers_of_holds hkeeps hnames hholds hw hsame⟩

end

/-! ### The name of the first user -/

/-- Ann is stored by her name once she is registered. -/
theorem registerAnn_stored : ∃ user,
    (afterCalls firstSettings noAccounts [registerAnn]).store.collections.Holds users user ∧
      user.get? firstSettings.identity = some (.text "ann") := by
  obtain ⟨user, d', h, -⟩ := registerAnn_enters
  have hstored := h.stored List.nodup_nil
  obtain ⟨-, e, hgains, -⟩ := withToken_spec firstSettings d' user
  refine ⟨user, ?_, ?_⟩
  · rw [afterCalls, List.foldl_cons, List.foldl_nil, h.run_eq]
    exact Collections.holds_of_getOne (hgains.getOne_of_ok hstored)
  · cases h with
    | register henrolls =>
      obtain ⟨_, _, _, ⟨⟩, -, hread, hfields⟩ := henrolls.gains
      rw [Entry.get?_read hread (by decide), hfields _ (by decide) (by decide) (by decide)]
      rfl

/-- Her name cannot be taken again, in whatever letter case. -/
theorem identities_stay_unique_ann :
    firstSettings.KeepsIdentity ∧ AllDiffer (identities firstSettings noAccounts.store.collections) ∧
      (∀ v ∈ identities firstSettings noAccounts.store.collections, v.namesDistinct = true) ∧
      (∀ c ∈ [registerAnn], c.body.namesDistinct = true) ∧
      (register firstSettings (afterCalls firstSettings noAccounts [registerAnn])
        (.ofValue (.object [("username", .text "ANN"), ("password", .text "sesame")]))).1 =
          .error (.taken "username") := by
  have hkeeps : firstSettings.KeepsIdentity := ⟨by decide, by decide, by decide⟩
  have hcalls : ∀ c ∈ [registerAnn], c.body.namesDistinct = true := by decide
  have hnames : ∀ v ∈ identities firstSettings noAccounts.store.collections, v.namesDistinct = true :=
    List.forall_mem_nil _
  have hdiffer : AllDiffer (identities firstSettings noAccounts.store.collections) := List.Pairwise.nil
  obtain ⟨user, hholds, hname⟩ := registerAnn_stored
  refine ⟨hkeeps, hdiffer, hnames, hcalls, ?_⟩
  refine ((identities_stay_unique hkeeps hdiffer hnames hcalls).2 _ (by decide)).mpr
    ⟨_, .text "ANN", "sesame", rfl, rfl, rfl, rfl, by decide, user, .text "ann", hholds, hname, by decide⟩

end DocumentStore.Account
