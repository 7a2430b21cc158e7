/-
  DocumentStore.Proofs.SessionLife — a token stands for its user while its session lives.

  Registering and logging in open a session and give out its token. A session is found by a token
  letter case aside, as a token is its own folding (`fold_of_signToken`). Where no session was at
  first, the sessions stay `Valid` through all calls: their users are stored, and their tokens are
  those signed for their ids.

  So long as tokens tell the sessions apart, what a token stands for is whom a session that is
  there was opened for (`resolve_cases`). A session is there from the call that gives out its token
  on (`live_run`), until somebody logs out with that token:
  - `token_resolves_iff`: so a token stands for a user after some calls exactly if one of them gave
    it out for the user, and no later one logged it out. A logout ends one session and no other.
-/

import DocumentStore.Proofs.Accounts
import DocumentStore.Proofs.Text
import Mathlib.Data.List.Nodup

namespace DocumentStore

namespace Account

open Store (Entry idField)

/-! ## Tokens -/

theorem signToken_eq_ok {id secret token : String} (h : signToken id secret = .ok token) :
    ∃ s : Digest.State, token = s.hexText := by
  obtain ⟨key, -, h⟩ := Result.bind_eq_ok.mp h
  obtain ⟨bytes, -, h⟩ := Result.bind_eq_ok.mp h
  exact ⟨_, (Except.ok.inj h).symm⟩

/-- Letter case makes no difference to a token as it is signed. -/
theorem fold_of_signToken {id secret token : String} (h : signToken id secret = .ok token) :
    Text.fold token = token := by
  obtain ⟨s, rfl⟩ := signToken_eq_ok h
  exact Digest.fold_hexText s

theorem signToken_ne_empty {id secret token : String} (h : signToken id secret = .ok token) : token ≠ "" := by
  obtain ⟨s, rfl⟩ := signToken_eq_ok h
  exact Digest.hexText_ne_empty s

/-! ## Valid sessions -/

structure Valid (settings : Settings) (cs : Collections) : Prop where
  ids : (cs.named sessions).names.Nodup
  userIds : (cs.named users).names.Nodup
  each : ∀ f ∈ cs.named sessions, ∃ userId user, IsSession settings userId f.1 f.2 ∧
    cs.getOne users userId = .ok user

/-- No two sessions that are stored have the same token. -/
def TokensDiffer (settings : Settings) (cs : Collections) : Prop :=
  ∀ f ∈ cs.named sessions, ∀ g ∈ cs.named sessions, ∀ token,
    signToken f.1 settings.secret = .ok token → signToken g.1 settings.secret = .ok token → f.1 = g.1

def Live (cs : Collections) (token : String) (user : Record) : Prop :=
  ∃ f ∈ cs.named sessions, ∃ userId, f.2.record.get? tokenField = some (.text token) ∧
    f.2.record.get? userField = some (.text userId) ∧ cs.getOne users userId = .ok user

section

variable {settings : Settings} {cs cs' : Collections} {userId id token t : String} {e : Entry} {user : Record}

theorem IsSession.token_eq_some (h : IsSession settings userId id e)
    (ht : e.record.get? tokenField = some (.text token)) : signToken id settings.secret = .ok token := by
  rw [h.token] at ht
  cases hsign : signToken id settings.secret with
  | error f =>
    rw [hsign] at ht
    cases ht
  | ok signed =>
    rw [hsign] at ht
    cases ht
    rfl

/-- A session meets a token exactly if that folds to its own. -/
theorem IsSession.meetsAll_iff (h : IsSession settings userId id e) :
    Collections.meetsAll [(tokenField, .text t)] id e = true ↔
      e.record.get? tokenField = some (.text (Text.fold t)) := by
  have hget : Keyed.get? (e.record.put idField (.text id)) tokenField = e.record.get? tokenField :=
    Keyed.get?_put_of_ne _ (by decide) _
  simp only [Collections.meetsAll, List.all_cons, List.all_nil, Bool.and_true, hget, h.token]
  cases hsign : signToken id settings.secret with
  | error f => simp [Except.toOption]
  | ok token =>
    have hfold := fold_of_signToken hsign
    simp only [Except.toOption, Option.map_some, Collections.lookupSame, beq_iff_eq, Option.some.injEq, Value.text.injEq]
    constructor
    · intro hsame
      rw [← hfold, Text.fold, Text.fold, hsame]
    · intro heq
      rw [← String.ofList_inj]
      exact heq.symm.trans hfold.symm

/-- Of the sessions a token meets the one that it is signed for. -/
theorem Valid.filter_eq (h : Valid settings cs) (hdiffer : TokensDiffer settings cs) {f : String × Entry}
    (hf : f ∈ cs.named sessions) (ht : f.2.record.get? tokenField = some (.text (Text.fold t))) :
    (cs.named sessions).filter (fun (id, e) => Collections.meetsAll [(tokenField, .text t)] id e) = [f] := by
  have hnodup : (cs.named sessions).Nodup := List.Nodup.of_map _ h.ids
  refine List.perm_singleton.mp ((List.perm_ext_iff_of_nodup (hnodup.filter _) (List.nodup_singleton f)).mpr ?_)
  intro g
  rw [List.mem_filter, List.mem_singleton]
  constructor
  · rintro ⟨hg, hmeets⟩
    obtain ⟨_, _, hsession, -⟩ := h.each f hf
    obtain ⟨_, _, hother, -⟩ := h.each g hg
    have hid := hdiffer g hg f hf _ (hother.token_eq_some (hother.meetsAll_iff.mp hmeets)) (hsession.token_eq_some ht)
    have hsame := (Collections.mem_named_iff h.ids).mp hg
    rw [hid, (Collections.mem_named_iff h.ids).mp hf] at hsame
    exact Prod.ext hid (Option.some.inj hsame).symm
  · rintro rfl
    obtain ⟨_, _, hsession, -⟩ := h.each g hf
    exact ⟨hf, hsession.meetsAll_iff.mpr ht⟩

/-- What a token finds is what is first among the sessions that it meets. -/
theorem findSession_eq (cs : Collections) (t : String) :
    findSession cs t =
      match Collections.readEntries
          ((cs.named sessions).filter fun (id, e) => Collections.meetsAll [(tokenField, .text t)] id e) with
      | .error f => .error f
      | .ok [] => .ok none
      | .ok (record :: _) => (Session.ofRecord record).map some := by
  unfold findSession Collections.findExact Collections.collection Collections.named Keyed.has
  cases cs.get? (.text sessions) with
  | none => rfl
  | some c => rfl

theorem Valid.findSession_of_mem (h : Valid settings cs) (hdiffer : TokensDiffer settings cs) {f : String × Entry}
    (hf : f ∈ cs.named sessions) (ht : f.2.record.get? tokenField = some (.text (Text.fold t)))
    (hu : f.2.record.get? userField = some (.text userId)) :
    findSession cs t = .ok (some ⟨f.1, userId, Text.fold t⟩) := by
  obtain ⟨_, _, hsession, -⟩ := h.each f hf
  have hread := Entry.read_of_foreign hsession.foreign f.1
  rw [findSession_eq, h.filter_eq hdiffer hf ht]
  simp only [Collections.readEntries, hread, Except.map, ofRecord_session hread hu ht]

theorem Valid.findSession_eq_none (h : Valid settings cs)
    (hnone : ∀ f ∈ cs.named sessions, f.2.record.get? tokenField ≠ some (.text (Text.fold t))) :
    findSession cs t = .ok none := by
  have hfilter : (cs.named sessions).filter (fun (id, e) => Collections.meetsAll [(tokenField, .text t)] id e) = [] :=
    List.filter_eq_nil_iff.mpr fun f hf hmeets => by
      obtain ⟨_, _, hsession, -⟩ := h.each f hf
      exact hnone f hf (hsession.meetsAll_iff.mp hmeets)
  rw [findSession_eq, hfilter]
  rfl

/-- A token stands for whom its session was opened for, or for nobody. -/
theorem Valid.resolve_cases (h : Valid settings cs) (hdiffer : TokensDiffer settings cs) (t : String) :
    (∃ user, resolve cs (some t) = .ok (some user) ∧ ∀ u, Live cs (Text.fold t) u ↔ u = user) ∨
      (resolve cs (some t) = .error (.credential .token) ∧ ∀ u, ¬ Live cs (Text.fold t) u) := by
  by_cases hfound : ∃ f ∈ cs.named sessions, f.2.record.get? tokenField = some (.text (Text.fold t))
  · obtain ⟨f, hf, ht⟩ := hfound
    obtain ⟨userId, user, hsession, huser⟩ := h.each f hf
    have hone := h.findSession_of_mem hdiffer hf ht hsession.user
    refine Or.inl ⟨user, by simp only [resolve, hone, huser], fun u => ⟨?_, ?_⟩⟩
    · rintro ⟨g, hg, otherId, htoken, hother, hu⟩
      have hsame := (h.findSession_of_mem hdiffer hg htoken hother).symm.trans hone
      obtain rfl : otherId = userId := congrArg Session.user (Option.some.inj (Except.ok.inj hsame))
      exact Except.ok.inj (hu.symm.trans huser)
    · rintro rfl
      exact ⟨f, hf, userId, ht, hsession.user, huser⟩
  · have hnone : ∀ f ∈ cs.named sessions, f.2.record.get? tokenField ≠ some (.text (Text.fold t)) :=
      fun f hf ht => hfound ⟨f, hf, ht⟩
    refine Or.inr ⟨by simp only [resolve, h.findSession_eq_none hnone], ?_⟩
    rintro u ⟨f, hf, _, ht, -⟩
    exact hnone f hf ht

end

/-! ## One call -/

section

variable {settings : Settings} {d d' : Directory} {c : AccountCall} {user : Record} {token : String}

structure LogsIn (settings : Settings) (d : Directory) (c : AccountCall) (user : Record) (token : String) : Prop where
  answer : (c.run settings d).1 = .ok (some ((publicUser user).put tokenField (.text token)))
  stored : ∃ id, (c.run settings d).2.store.collections.getOne users id = .ok user

/-- An answer that gives out a token tells which it is, and the id of the user. -/
theorem answer_inj {u : Record} {signed : String}
    (h : (publicUser user).put tokenField (.text signed) = (publicUser u).put tokenField (.text token)) :
    signed = token ∧ user.value idField = u.value idField := by
  have htoken : ∀ (r : Record) (t : String),
      Keyed.get? ((publicUser r).put tokenField (.text t)) tokenField = some (.text t) := fun r t =>
    Keyed.get?_put_self _ (beq_self_eq_true tokenField) _
  have hid : ∀ (r : Record) (t : String),
      Keyed.get? ((publicUser r).put tokenField (.text t)) idField = r.get? idField := fun r t => by
    rw [Keyed.get?_put_of_ne _ (by decide), publicUser, Keyed.get?_erase_of_ne _ (by decide)]
  constructor
  · have hsame := htoken user signed
    rw [h, htoken] at hsame
    exact (Value.text.inj (Option.some.inj hsame)).symm
  · rw [Record.value, Record.value, ← hid user signed, h, hid]

def AccountCall.LogsOut (token : String) (c : AccountCall) : Prop :=
  ∃ text, c = .logout (some text) ∧ Text.fold text = token

theorem Enters.named_sessions (h : Enters settings d c user d') :
    d'.store.collections.named sessions = d.store.collections.named sessions := by
  rcases h.kept with hsame | ⟨id, e, hgains⟩
  · rw [hsame]
  · exact hgains.elsewhere sessions (by decide)

theorem Enters.getOne_of_ok (h : Enters settings d c user d') {id : String} {other : Record}
    (hr : d.store.collections.getOne users id = .ok other) : d'.store.collections.getOne users id = .ok other := by
  rcases h.kept with hsame | ⟨_, e, hgains⟩
  · rwa [hsame]
  · exact hgains.getOne_of_ok hr

/-- A session opened for a user who is stored is one more valid session. -/
theorem Enters.valid (h : Enters settings d c user d') (hv : Valid settings d.store.collections) :
    Valid settings (withToken settings d' user).2.store.collections := by
  obtain ⟨-, e, hgains, hsession⟩ := withToken_spec settings d' user
  refine ⟨hgains.names_nodup (by rw [h.named_sessions]; exact hv.ids), hgains.names_nodup ?_, ?_⟩
  · rcases h.kept with hsame | ⟨_, _, henrolled⟩
    · rw [hsame]
      exact hv.userIds
    · exact henrolled.names_nodup hv.userIds
  · rw [hgains.here, h.named_sessions]
    refine List.forall_mem_append.mpr ⟨fun f hf => ?_, List.forall_mem_singleton.mpr ?_⟩
    · obtain ⟨userId, other, hother, hr⟩ := hv.each f hf
      exact ⟨userId, other, hother, hgains.getOne_of_ok (h.getOne_of_ok hr)⟩
    · exact ⟨_, user, hsession, hgains.getOne_of_ok (h.stored hv.userIds)⟩

theorem Valid.loses {cs cs' : Collections} {id : String} (hv : Valid settings cs) (h : cs.Loses cs' sessions id) :
    Valid settings cs' := by
  refine ⟨h.names_nodup hv.ids, h.names_nodup hv.userIds, fun f hf => ?_⟩
  rw [h.here] at hf
  obtain ⟨userId, user, hsession, hr⟩ := hv.each f (Keyed.mem_erase.mp hf).1
  exact ⟨userId, user, hsession, (h.getOne_iff (by decide)).mpr hr⟩

theorem Valid.run (hv : Valid settings d.store.collections) (c : AccountCall) :
    Valid settings (c.run settings d).2.store.collections := by
  have hspec := c.run_spec settings d
  generalize c.run settings d = out at hspec ⊢
  cases hspec with
  | refused => exact hv
  | entered h => exact h.valid hv
  | left hfound hloses => exact hv.loses hloses

/-- A call that enters gives out the token that is signed for the new session, to no other user. -/
theorem Enters.logsIn_iff (h : Enters settings d c user d') (hv : Valid settings d.store.collections) {u : Record} :
    LogsIn settings d c u token ↔
      u = user ∧ signToken (d'.store.nextId sessions).1 settings.secret = .ok token := by
  obtain ⟨hanswer, e, hgains, -⟩ := withToken_spec settings d' user
  have hstored := hgains.getOne_of_ok (h.stored hv.userIds)
  have hrun := h.run_eq
  rw [hanswer] at hrun
  constructor
  · rintro ⟨hlogs, id, hid⟩
    rw [hrun] at hlogs hid
    obtain ⟨answer, hmap, hsome⟩ := Result.map_eq_ok.mp hlogs
    obtain ⟨signed, hsign, rfl⟩ := Result.map_eq_ok.mp hmap
    obtain ⟨rfl, hids⟩ := answer_inj (Option.some.inj hsome)
    obtain ⟨_, _, hread⟩ := Collections.getOne_eq_ok_iff.mp hid
    rw [hids, id_of_read hread] at hstored
    exact ⟨Except.ok.inj (hid.symm.trans hstored), hsign⟩
  · rintro ⟨rfl, hsign⟩
    refine ⟨by rw [hrun, hsign]; rfl, (Record.value u idField).asText, ?_⟩
    rw [hrun]
    exact hstored

/-- Whom a token stands for after a call that enters. -/
theorem Enters.live_iff (h : Enters settings d c user d') (hv : Valid settings d.store.collections) {u : Record} :
    Live (withToken settings d' user).2.store.collections token u ↔
      Live d.store.collections token u ∨ LogsIn settings d c u token := by
  obtain ⟨-, e, hgains, hsession⟩ := withToken_spec settings d' user
  have hstored := hgains.getOne_of_ok (h.stored hv.userIds)
  rw [h.logsIn_iff hv]
  unfold Live
  rw [hgains.here, h.named_sessions]
  constructor
  · rintro ⟨f, hf, userId, htoken, huser, hr⟩
    rcases List.mem_append.mp hf with hf | hf
    · obtain ⟨otherId, other, hother, hr'⟩ := hv.each f hf
      cases huser.symm.trans hother.user
      cases hr.symm.trans (hgains.getOne_of_ok (h.getOne_of_ok hr'))
      exact Or.inl ⟨f, hf, userId, htoken, huser, hr'⟩
    · cases List.mem_singleton.mp hf
      cases huser.symm.trans hsession.user
      exact Or.inr ⟨Except.ok.inj (hr.symm.trans hstored), hsession.token_eq_some htoken⟩
  · rintro (⟨f, hf, userId, htoken, huser, hr⟩ | ⟨rfl, hsign⟩)
    · exact ⟨f, List.mem_append_left _ hf, userId, htoken, huser, hgains.getOne_of_ok (h.getOne_of_ok hr)⟩
    · refine ⟨_, List.mem_append_right _ List.mem_cons_self, _, ?_, hsession.user, hstored⟩
      rw [hsession.token, hsign]
      rfl

/-- What a token finds is a session that has it. -/
theorem Valid.exists_of_findSession {cs : Collections} (hv : Valid settings cs) (hdiffer : TokensDiffer settings cs)
    {text : String} {session : Session} (h : findSession cs text = .ok (some session)) :
    ∃ f ∈ cs.named sessions, f.1 = session.id ∧
      f.2.record.get? tokenField = some (.text (Text.fold text)) := by
  by_contra hnot
  have hnone : ∀ f ∈ cs.named sessions, f.2.record.get? tokenField ≠ some (.text (Text.fold text)) := by
    intro f hf ht
    obtain ⟨userId, -, hsession, -⟩ := hv.each f hf
    cases h.symm.trans (hv.findSession_of_mem hdiffer hf ht hsession.user)
    exact hnot ⟨f, hf, rfl, ht⟩
  cases h.symm.trans (hv.findSession_eq_none hnone)

/-- Of the sessions a logout ends those with its token, and no others. -/
theorem Valid.live_iff_of_loses {cs cs' : Collections} (hv : Valid settings cs) (hdiffer : TokensDiffer settings cs)
    {text : String} {session : Session} (hfound : findSession cs text = .ok (some session))
    (hloses : cs.Loses cs' sessions session.id) {u : Record} :
    Live cs' token u ↔ Live cs token u ∧ Text.fold text ≠ token := by
  obtain ⟨g, hg, hid, htext⟩ := hv.exists_of_findSession hdiffer hfound
  unfold Live
  rw [hloses.here]
  constructor
  · rintro ⟨f, hf, userId, htoken, huser, hr⟩
    obtain ⟨hf, hne⟩ := Keyed.mem_erase.mp hf
    refine ⟨⟨f, hf, userId, htoken, huser, (hloses.getOne_iff (by decide)).mp hr⟩, ?_⟩
    rintro rfl
    obtain ⟨_, -, hsession, -⟩ := hv.each f hf
    obtain ⟨_, -, hother, -⟩ := hv.each g hg
    have hsame := hdiffer f hf g hg _ (hsession.token_eq_some htoken) (hother.token_eq_some htext)
    exact beq_eq_false_iff_ne.mp hne (hsame.trans hid)
  · rintro ⟨⟨f, hf, userId, htoken, huser, hr⟩, hne⟩
    refine ⟨f, Keyed.mem_erase.mpr ⟨hf, beq_eq_false_iff_ne.mpr fun hsame => hne ?_⟩, userId, htoken, huser,
      (hloses.getOne_iff (by decide)).mpr hr⟩
    have hg := (Collections.mem_named_iff hv.ids).mp hg
    rw [hid, ← hsame, (Collections.mem_named_iff hv.ids).mp hf] at hg
    rw [← Option.some.inj hg, htoken] at htext
    cases htext
    rfl

/-- A token that stands for somebody can be logged out. -/
theorem Valid.logout_of_live (hv : Valid settings d.store.collections)
    (hdiffer : TokensDiffer settings d.store.collections) {text : String} {u : Record}
    (hlive : Live d.store.collections (Text.fold text) u) : ∃ d', logout d (some text) = (.ok (), d') := by
  obtain ⟨f, hf, userId, htoken, huser, -⟩ := hlive
  obtain ⟨_, -, hsession, -⟩ := hv.each f hf
  have hne : text ≠ "" := by
    rintro rfl
    exact signToken_ne_empty (hsession.token_eq_some htoken) rfl
  have hentry := Collections.entry_eq_ok_iff.mpr ((Collections.mem_named_iff hv.ids).mp hf)
  simp only [logout, String.isEmpty_iff, hne, if_false, hv.findSession_of_mem hdiffer hf htoken huser, Store.delete,
    hentry]
  exact ⟨_, rfl⟩

/-- Whom a token stands for after a call: for whom it did, unless it was logged out, or for whom the
call logged in with it. -/
theorem Valid.live_run (hv : Valid settings d.store.collections) (hdiffer : TokensDiffer settings d.store.collections)
    (c : AccountCall) (token : String) (u : Record) :
    Live (c.run settings d).2.store.collections token u ↔
      (Live d.store.collections token u ∧ ¬ c.LogsOut token) ∨ LogsIn settings d c u token := by
  have hspec := c.run_spec settings d
  generalize hout : c.run settings d = out at hspec
  cases hspec with
  | refused f salts =>
    have hno : ¬ LogsIn settings d c u token := fun hlogs => by cases hout ▸ hlogs.answer
    rw [or_iff_left hno]
    refine (and_iff_left_of_imp fun hlive => ?_).symm
    rintro ⟨text, rfl, rfl⟩
    obtain ⟨d', hok⟩ := hv.logout_of_live hdiffer hlive
    rw [AccountCall.run, hok] at hout
    cases hout
  | entered h =>
    have hno : ¬ c.LogsOut token := by
      rintro ⟨text, rfl, -⟩
      cases h
    rw [and_iff_left hno]
    exact h.live_iff hv
  | @left text session s hfound hloses =>
    have hno : ¬ LogsIn settings d (.logout (some text)) u token := fun hlogs => by cases hout ▸ hlogs.answer
    have hlogout : (AccountCall.logout (some text)).LogsOut token ↔ Text.fold text = token := by
      constructor
      · rintro ⟨_, ⟨⟩, htext⟩
        exact htext
      · exact fun htext => ⟨text, rfl, htext⟩
    rw [or_iff_left hno, hlogout]
    exact hv.live_iff_of_loses hdiffer hfound hloses

end

/-! ## Calls in a row -/

section

variable {settings : Settings} {d : Directory} {calls : List AccountCall} {token : String} {u : Record}

theorem exists_split_cons_iff {α : Type} {P : List α → α → List α → Prop} {c : α} {rest : List α} :
    (∃ before x after, c :: rest = before ++ x :: after ∧ P before x after) ↔
      P [] c rest ∨ ∃ before x after, rest = before ++ x :: after ∧ P (c :: before) x after := by
  constructor
  · rintro ⟨before, x, after, hsplit, h⟩
    cases before with
    | nil =>
      cases hsplit
      exact Or.inl h
    | cons first before =>
      cases hsplit
      exact Or.inr ⟨before, x, after, rfl, h⟩
  · rintro (h | ⟨before, x, after, rfl, h⟩)
    · exact ⟨[], c, rest, rfl, h⟩
    · exact ⟨c :: before, x, after, rfl, h⟩

/-- One of the calls gives the token out for the user, and none after it logs out with it. -/
def StaysIn (settings : Settings) (d : Directory) (calls : List AccountCall) (token : String) (u : Record) : Prop :=
  ∃ before c after, calls = before ++ c :: after ∧ LogsIn settings (afterCalls settings d before) c u token ∧
    ∀ later ∈ after, ¬ later.LogsOut token

theorem valid_after (hv : Valid settings d.store.collections) (calls : List AccountCall) :
    Valid settings (afterCalls settings d calls).store.collections := by
  induction calls generalizing d with
  | nil => exact hv
  | cons c rest ih => exact ih (hv.run c)

theorem live_after (hv : Valid settings d.store.collections)
    (hdiffer : ∀ before, before <+: calls → TokensDiffer settings (afterCalls settings d before).store.collections) :
    Live (afterCalls settings d calls).store.collections token u ↔
      (Live d.store.collections token u ∧ ∀ c ∈ calls, ¬ c.LogsOut token) ∨ StaysIn settings d calls token u := by
  induction calls generalizing d with
  | nil =>
    refine (or_iff_left ?_).symm.trans (or_congr_left (and_iff_left (List.forall_mem_nil _)).symm)
    rintro ⟨before, c, after, hsplit, -⟩
    exact absurd hsplit (by simp)
  | cons c rest ih =>
    have hrest := ih (hv.run c) fun before hb => hdiffer (c :: before) (List.prefix_cons_inj c |>.mpr hb)
    have hfirst := hv.live_run (hdiffer [] List.nil_prefix) c token u
    have hsplit : StaysIn settings d (c :: rest) token u ↔
        (LogsIn settings d c u token ∧ ∀ later ∈ rest, ¬ later.LogsOut token) ∨
          StaysIn settings (c.run settings d).2 rest token u := exists_split_cons_iff
    have hlive : Live (afterCalls settings d (c :: rest)).store.collections token u ↔
        Live (afterCalls settings (c.run settings d).2 rest).store.collections token u := Iff.rfl
    rw [hlive, hrest, hfirst, hsplit, List.forall_mem_cons, or_and_right, and_assoc, or_assoc]

/-! ## A logout -/

theorem TokensDiffer.loses {cs cs' : Collections} {id : String} (h : TokensDiffer settings cs)
    (hloses : cs.Loses cs' sessions id) : TokensDiffer settings cs' := by
  have hmem : ∀ {f}, f ∈ cs'.named sessions → f ∈ cs.named sessions := fun hf => by
    rw [hloses.here] at hf
    exact (Keyed.mem_erase.mp hf).1
  exact fun f hf g hg => h f (hmem hf) g (hmem hg)

/-- A token that stands for the same users is resolved alike. -/
theorem resolve_congr {cs cs' : Collections} (hv : Valid settings cs) (hv' : Valid settings cs')
    (hdiffer : TokensDiffer settings cs) (hdiffer' : TokensDiffer settings cs') {t : String}
    (hlive : ∀ u, Live cs' (Text.fold t) u ↔ Live cs (Text.fold t) u) :
    resolve cs' (some t) = resolve cs (some t) := by
  rcases hv.resolve_cases hdiffer t with ⟨user, hr, huser⟩ | ⟨hr, hnone⟩ <;>
    rcases hv'.resolve_cases hdiffer' t with ⟨user', hr', huser'⟩ | ⟨hr', hnone'⟩
  · rw [hr, hr', (huser user').mp ((hlive user').mp ((huser' user').mpr rfl))]
  · exact absurd ((hlive user).mpr ((huser user).mpr rfl)) (hnone' user)
  · exact absurd ((hlive user').mp ((huser' user').mpr rfl)) (hnone user')
  · rw [hr, hr']

/-- A logout ends one session. Its token then stands for nobody, and every other for whom it did. -/
theorem logout_ends_one {d' : Directory} {text : String} (hv : Valid settings d.store.collections)
    (hdiffer : TokensDiffer settings d.store.collections) (h : logout d (some text) = (.ok (), d')) :
    (∃ before f after, d.store.collections.named sessions = before ++ f :: after ∧
        d'.store.collections.named sessions = before ++ after) ∧
      ∀ t, resolve d'.store.collections (some t) =
        if Text.fold t = Text.fold text then .error (.credential .token) else resolve d.store.collections (some t) := by
  rcases logout_spec d (some text) with ⟨f, hout⟩ | ⟨_, session, s, ⟨⟩, hfound, hloses, hout⟩
  · cases h.symm.trans hout
  cases h.symm.trans hout
  obtain ⟨e, he⟩ := hloses.there
  obtain ⟨before, after, hsplit, -, -, -, herase⟩ := Keyed.exists_split hv.ids he
  refine ⟨⟨before, _, after, hsplit, hloses.here.trans herase⟩, fun t => ?_⟩
  have hlive : ∀ u, Live s.collections (Text.fold t) u ↔
      Live d.store.collections (Text.fold t) u ∧ Text.fold text ≠ Text.fold t := fun u =>
    hv.live_iff_of_loses hdiffer hfound hloses
  split
  · rename_i hsame
    rcases (hv.loses hloses).resolve_cases (hdiffer.loses hloses) t with ⟨user, -, huser⟩ | ⟨hr, -⟩
    · exact absurd hsame.symm ((hlive user).mp ((huser user).mpr rfl)).2
    · exact hr
  · rename_i hne
    exact resolve_congr hv (hv.loses hloses) hdiffer (hdiffer.loses hloses) fun u =>
      (hlive u).trans (and_iff_left (Ne.symm hne))

/-- Where there was no session at first, and no two sessions come to have the same token. After any
calls a token stands for a user exactly if one of them registered or logged in the user with it and
no later one logged out with it, whatever letter case it is written in. A logout then ends one session
and leaves to every other token what it stands for. -/
theorem token_resolves_iff (settings : Settings) (d : Directory) (calls : List AccountCall)
    (hnone : d.store.collections.named sessions = []) (hids : (d.store.collections.named users).names.Nodup)
    (hdiffer : ∀ before, before <+: calls → TokensDiffer settings (afterCalls settings d before).store.collections) :
    let after := afterCalls settings d calls
    (∀ t u, resolve after.store.collections (some t) = .ok (some u) ↔ StaysIn settings d calls (Text.fold t) u) ∧
      ∀ text d', logout after (some text) = (.ok (), d') →
        (∃ before f others, after.store.collections.named sessions = before ++ f :: others ∧
            d'.store.collections.named sessions = before ++ others) ∧
          ∀ t, resolve d'.store.collections (some t) =
            if Text.fold t = Text.fold text then .error (.credential .token)
            else resolve after.store.collections (some t) := by
  intro after
  have hempty : ∀ f ∈ d.store.collections.named sessions, False := fun f hf => by
    rw [hnone] at hf
    exact List.not_mem_nil hf
  have hv : Valid settings d.store.collections :=
    ⟨by rw [hnone]; exact List.nodup_nil, hids, fun f hf => (hempty f hf).elim⟩
  have hvalid := valid_after hv calls
  have hlast := hdiffer calls (List.prefix_refl calls)
  refine ⟨fun t u => ?_, fun text d' h => logout_ends_one hvalid hlast h⟩
  have hbefore : ¬ (Live d.store.collections (Text.fold t) u ∧ ∀ c ∈ calls, ¬ c.LogsOut (Text.fold t)) :=
    fun ⟨⟨f, hf, _⟩, _⟩ => hempty f hf
  rw [← or_iff_right (b := StaysIn settings d calls (Text.fold t) u) hbefore, ← live_after hv hdiffer]
  rcases hvalid.resolve_cases hlast t with ⟨user, hr, huser⟩ | ⟨hr, hno⟩
  · rw [hr, huser u, Except.ok.injEq, Option.some.injEq]
    exact eq_comm
  · rw [hr]
    exact ⟨nofun, fun hlive => absurd hlive (hno u)⟩

end

/-! ### The first user's token -/

/-- Ann's session is the only one after her registration, so no other has its token. -/
theorem tokensDiffer_registerAnn {before : List AccountCall} (hb : before <+: [registerAnn]) :
    TokensDiffer firstSettings (afterCalls firstSettings noAccounts before).store.collections := by
  obtain ⟨user, d', h, -⟩ := registerAnn_enters
  obtain ⟨-, e, hgains, -⟩ := withToken_spec firstSettings d' user
  have hone : (withToken firstSettings d' user).2.store.collections.named sessions =
      [((d'.store.nextId sessions).1, e)] := by
    rw [hgains.here, h.named_sessions]
    rfl
  rcases List.prefix_cons_iff.mp hb with rfl | ⟨rest, rfl, hrest⟩
  · exact fun f hf => absurd hf List.not_mem_nil
  · obtain rfl := List.prefix_nil.mp hrest
    rw [afterCalls, List.foldl_cons, List.foldl_nil, h.run_eq]
    intro f hf g hg _ _ _
    rw [hone] at hf hg
    rw [List.mem_singleton.mp hf, List.mem_singleton.mp hg]

/-- Ann is given a token, and it stands for her. -/
theorem token_resolves_iff_ann :
    noAccounts.store.collections.named sessions = [] ∧ (noAccounts.store.collections.named users).names.Nodup ∧
      (∀ before, before <+: [registerAnn] →
        TokensDiffer firstSettings (afterCalls firstSettings noAccounts before).store.collections) ∧
      ∃ token user, LogsIn firstSettings noAccounts registerAnn user token ∧
        resolve (afterCalls firstSettings noAccounts [registerAnn]).store.collections (some token) = .ok (some user) := by
  have hids : (noAccounts.store.collections.named users).names.Nodup := List.nodup_nil
  have hv : Valid firstSettings noAccounts.store.collections :=
    ⟨List.nodup_nil, hids, fun f hf => absurd hf List.not_mem_nil⟩
  obtain ⟨user, d', h, hid⟩ := registerAnn_enters
  obtain ⟨token, hsign⟩ : ∃ token, signToken "s1" firstSettings.secret = .ok token := ⟨_, rfl⟩
  have hlogs : LogsIn firstSettings noAccounts registerAnn user token :=
    (h.logsIn_iff hv).mpr ⟨rfl, by rw [hid]; exact hsign⟩
  refine ⟨rfl, hids, fun _ => tokensDiffer_registerAnn, token, user, hlogs, ?_⟩
  refine ((token_resolves_iff firstSettings noAccounts [registerAnn] rfl hids fun _ =>
    tokensDiffer_registerAnn).1 token user).mpr ⟨[], registerAnn, [], rfl, ?_, List.forall_mem_nil _⟩
  rw [fold_of_signToken hsign]
  exact hlogs

end Account

end DocumentStore
