/-
  DocumentStore.Proofs.OwnersOnly — collections whose records are changed by their owners alone.

  A rules document limits a collection to owners if its update and delete rules ask for the
  owner and no single record has rules of its own (`LimitsToOwners`). Calls come one after the
  other, by anybody and about anything. Then:
  - whoever changes or removes a record of the collection without the admin override is the user
    that its owner field names (`Turn.changes_by_owner`);
  - a record that a call created belongs to its caller, or to nobody if that has no id, for as
    long as it is there (`Turn.creates_owned`, `owner_stays`).
  `limited_to_owners` says both of every point in every row of calls.
-/

import Mathlib
import DocumentStore.Proofs.Dispatch
import DocumentStore.Proofs.Precedence
import DocumentStore.Proofs.Writable

namespace DocumentStore

namespace Rule

/-! ## Rules that ask for the owner -/

/-- By the document only the owner may change or delete a record of the collection: both actions ask for
the owner, and there are no rules for single records. -/
structure LimitsToOwners (document : Document) (name : String) : Prop where
  distinct : document.keysDistinct = true
  update : document.under? [name, Action.update.key] = some (.list [.text "Owner"])
  delete : document.under? [name, Action.delete.key] = some (.list [.text "Owner"])
  sections : ∀ key d, document.under? [name, key] = some d → isActionKey key = true ∨ key = wildcard

def Action.Changes (action : Action) : Prop := action = .update ∨ action = .delete

section Limits

variable {registry : Registry} {action : Action} {document : Document} {name : String}

theorem LimitsToOwners.set? (h : LimitsToOwners document name) (ha : action.Changes) :
    document.set? [name, action.key] = some (.list [.text "Owner"]) := by
  rcases ha with rfl | rfl
  · rw [Document.set?, h.update]
    rfl
  · rw [Document.set?, h.delete]
    rfl

/-- What the document sets first is that the owner is asked for. -/
theorem LimitsToOwners.firstSet? (h : LimitsToOwners document name) (ha : action.Changes) (record : Option Record) :
    firstSet? document action (rulePaths name (ruledId record)) = some (.list [.text "Owner"]) := by
  have hnone : ((ruledId record).bind fun id => document.set? [name, id, action.key]) = none := by
    refine Option.bind_eq_none_iff.mpr fun id hid => Option.eq_none_iff_forall_ne_some.mpr fun rule hrule => ?_
    obtain ⟨d, hd, -⟩ := Option.bind_eq_some_iff.mp ((Document.set?_append document [name, id] [action.key]).symm.trans hrule)
    obtain ⟨hwild, haction⟩ := isRecordName_eq_true.mp (isRecordName_of_ruledId record id hid)
    rcases h.sections id d hd with hkey | hkey
    · exact Bool.false_ne_true (haction.symm.trans hkey)
    · exact hwild hkey
  rw [firstSet?_rulePaths, hnone, h.set? ha]
  rfl

theorem rule_of_rel {found : Option Rule}
    (h : Option.Rel (fun value rule => compile registry value = .ok rule) (some (.list [.text "Owner"])) found) :
    found = some (.roles [.owner]) := by
  cases h with
  | some h =>
    cases h
    rfl

/-- The rule for changing a record of a collection that is limited to owners asks for the owner,
also where the collection is named like the part for all collections. -/
theorem resolve_of_limitsToOwners {lookup : Option Lookup} {engine : Engine}
    (hdoc : Engine.ofDocument registry lookup document = .ok engine) (h : LimitsToOwners document name)
    (hname : name.isEmpty = false) (ha : action.Changes) {record : Option Record} {resolved : Resolved}
    (hr : engine.rules.resolve action (some name) record = .ok resolved) : resolved.rule = .roles [.owner] := by
  have hrules := rules_ofDocument hdoc h.update
  have hempty : name ≠ "" := String.isEmpty_eq_false_iff.mp hname
  by_cases hwild : name = wildcard
  · subst hwild
    rw [Rules.resolve_eq hempty, Rules.get?_wildcard h.distinct hrules] at hr
    obtain ⟨found, hrel, hdefault⟩ := Rules.default_eq h.distinct hrules action
    rw [h.set? ha] at hrel
    cases hr
    rw [hdefault, rule_of_rel hrel]
    rfl
  · obtain ⟨found, hrel, hrule⟩ := Rules.resolve_rule_rel h.distinct hrules hempty hwild hr
    rw [h.firstSet? ha] at hrel
    rw [hrule, rule_of_rel hrel]
    rfl

end Limits

theorem owns_eq_true {ctx : Context} {owner : Option Draft} (h : ctx.owns owner = .ok true) :
    ∃ id d, ctx.userId = .ok (some id) ∧ owner = some d ∧ d ≠ .null ∧ d.spelled = .ok id := by
  unfold Context.owns at h
  split at h
  · cases h
  rename_i id hid
  unfold Rule.owns at h
  split at h
  · cases h
  · rename_i id d hnull
    obtain ⟨text, htext, heq⟩ := Result.map_eq_ok.mp h
    obtain rfl : text = id := eq_of_beq heq
    exact ⟨text, d, hid, rfl, fun e => hnull e, htext⟩
  · cases h

/-- A rule that asks for the owner allows the owner only. -/
theorem decide_owner {ctx : Context} {strict : Bool} (h : (Rule.roles [.owner]).decide strict ctx = .ok true) :
    ctx.user.isSome = true ∧ ctx.owns (ownerIn ctx.data) = .ok true := by
  have hroles : decideRoles [.owner] strict ctx = .ok true := h
  unfold decideRoles at hroles
  rw [if_neg (by decide)] at hroles
  split at hroles
  · cases strict <;> cases hroles
  rw [if_neg (by decide)] at hroles
  split at hroles
  · rename_i hboth
    exact ⟨(Bool.and_eq_true_iff.mp hboth).1, hroles⟩
  · cases hroles

end Rule

namespace Service

open Rule (Engine Action LimitsToOwners)
open Store (Entry Operation ownerField)

def Owns (caller : Caller) (record : Record) : Prop :=
  ∃ user id owner, caller.user = some user ∧ caller.userId = .ok (some id) ∧
    record.get? ownerField = some owner ∧ owner ≠ .null ∧ owner.spelled = .ok id

theorem owns_of_gate (engine : Engine) {caller : Caller} {action : Action} {name : String} {record : Record}
    {newData : Option Draft.Members} {hidden : List String}
    (hrule : ∀ resolved, engine.rules.resolve action (some name) (some record) = .ok resolved →
      resolved.rule = .roles [.owner]) (hadmin : caller.isAdmin = false)
    (hg : engine.gate caller action (some name) (some record) newData = .ok hidden) : Owns caller record := by
  obtain ⟨resolved, hresolved, hpass, -⟩ := Engine.gate_ok hg
  have hallowed := hpass.resolve_right (by simp [hadmin])
  rw [hrule resolved hresolved] at hallowed
  obtain ⟨hsome, howns⟩ := Rule.decide_owner hallowed
  obtain ⟨user, huser⟩ := Option.isSome_iff_exists.mp hsome
  obtain ⟨id, d, hid, hd, hnull, htext⟩ := Rule.owns_eq_true howns
  obtain ⟨owner, howner, rfl⟩ := Option.map_eq_some_iff.mp hd
  exact ⟨user, id, owner, huser, hid, howner, by rintro rfl; exact hnull rfl, htext⟩

/-! ## Calls in a row -/

/-- A call as it comes: to whom the engine turns for records, the users there are, and the method. -/
structure Turn where
  lookup : Option Rule.Lookup
  users : Collections
  method : String
  call : Call

def Turn.run (engine : Engine) (t : Turn) (s : Store) : Except Failure Value × Store :=
  dispatch { engine with lookup := t.lookup } t.users s t.method t.call

def afterTurns (engine : Engine) (s : Store) (turns : List Turn) : Store :=
  turns.foldl (fun s t => (t.run engine s).2) s

section Turns

variable {engine : Engine} {s : Store} {t : Turn} {name id : String} {e e' : Entry}

/-- A call does nothing to the store, or has it run one operation that the rules let pass. -/
theorem Turn.run_store (engine : Engine) (t : Turn) (s : Store) :
    (t.run engine s).2 = s ∨ ∃ op, Permits { engine with lookup := t.lookup } s t.call op ∧
      (t.run engine s).2 = (op.run s).2 := by
  have h := dispatch_spec { engine with lookup := t.lookup } t.users s t.method t.call
  unfold Turn.run
  generalize dispatch { engine with lookup := t.lookup } t.users s t.method t.call = out at h
  cases h with
  | read => exact Or.inl rfl
  | refused => exact Or.inl rfl
  | performed _ hp => exact Or.inr ⟨_, hp, rfl⟩

theorem target_stored? {call : Call} {record : Record} (ht : target s.collections call = .ok (name, id, record))
    (he : s.collections.stored? name id = some e) : record.get? ownerField = e.record.get? ownerField := by
  obtain ⟨-, -, hr⟩ := target_ok ht
  rw [Collections.getOne_of_entry (Collections.entry_eq_ok_iff.mpr he)] at hr
  exact Entry.get?_read_of_ne hr (by decide)

theorem target_nonempty {data : Collections} {call : Call} {record : Record}
    (ht : target data call = .ok (name, id, record)) : name.isEmpty = false := by
  unfold target at ht
  split at ht
  · cases ht
  split at ht
  · cases ht
  split at ht
  · cases ht
  · rename_i hname
    obtain ⟨_, -, he⟩ := Result.map_eq_ok.mp ht
    cases he
    exact requireCollection_nonempty hname

/-- Without the override, only the owner changes or removes a record of a collection whose rules
for that ask for the owner. -/
theorem Turn.changes_by_owner
    (hrule : ∀ action : Action, action.Changes → name.isEmpty = false → ∀ record resolved,
      engine.rules.resolve action (some name) (some record) = .ok resolved → resolved.rule = .roles [.owner])
    (hadmin : t.call.caller.isAdmin = false) (he : s.collections.stored? name id = some e)
    (hne : (t.run engine s).2.collections.stored? name id ≠ some e) : Owns t.call.caller e.record := by
  have hown : ∀ {action : Action} {record : Record} {newData : Option Draft.Members} {hidden : List String},
      action.Changes → target s.collections t.call = .ok (name, id, record) →
      Engine.gate { engine with lookup := t.lookup } t.call.caller action (some name) (some record) newData =
        .ok hidden → Owns t.call.caller e.record := by
    intro action record newData hidden ha ht hg
    obtain ⟨user, uid, owner, huser, hid, howner, hrest⟩ :=
      owns_of_gate { engine with lookup := t.lookup } (hrule action ha (target_nonempty ht) record) hadmin hg
    exact ⟨user, uid, owner, huser, hid, (target_stored? ht he).symm.trans howner, hrest⟩
  rcases t.run_store engine s with hs | ⟨op, hp, hs⟩
  · exact absurd he (hs ▸ hne)
  rw [hs] at hne
  rcases Store.about_of_stored?_ne he hne with ⟨payload, rfl⟩ | ⟨payload, rfl⟩ | rfl
  · cases hp with
    | replace ht hb hg => exact hown (.inl rfl) ht hg
  · cases hp with
    | merge ht hb hg => exact hown (.inl rfl) ht hg
  · cases hp with
    | delete ht hg => exact hown (.inr rfl) ht hg

/-! ## Owners -/

theorem ownerOf_ownedBy (userId : Option String) (payload : Draft.Members) :
    Entry.ownerOf (ownedBy userId payload) = .ok (userId.elim [] fun id => [(ownerField, .text id)]) := by
  unfold ownedBy
  cases userId with
  | none => simp [Entry.ownerOf]
  | some id => simp [Entry.ownerOf, Keyed.get?_put_self, Draft.check]

/-- A record that a call creates belongs to the caller, whatever owner the body names. -/
theorem Turn.creates_owned (hnone : s.collections.stored? name id = none)
    (he : (t.run engine s).2.collections.stored? name id = some e) :
    ∃ userId, t.call.caller.userId = .ok userId ∧ e.record.get? ownerField = userId.map .text := by
  rcases t.run_store engine s with hs | ⟨op, hp, hs⟩
  · rw [hs, hnone] at he
    cases he
  rw [hs] at he
  obtain ⟨⟨payload, rfl⟩, hi⟩ := Store.installs_of_stored?_none hnone he
  cases hp with
  | @create _ payload hidden userId hname hb hg huser =>
    cases hi with
    | add hp hc =>
      cases hp
      refine ⟨userId, huser, ?_⟩
      rw [Entry.put, Keyed.get?_put_of_ne _ (by decide), Entry.get?_create_owner hc (ownerOf_ownedBy ..)]
      cases userId <;> rfl

/-- A record that is there before and after a call belongs to whom it did. -/
theorem Turn.keeps_owner (he : s.collections.stored? name id = some e)
    (he' : (t.run engine s).2.collections.stored? name id = some e') :
    e'.record.get? ownerField = e.record.get? ownerField := by
  rcases t.run_store engine s with hs | ⟨op, hp, hs⟩
  · rw [hs, he] at he'
    cases he'
    rfl
  rw [hs] at he'
  by_cases hop : op = .delete name id
  · subst hop
    have hgone : ((Operation.delete name id).run s).2.collections.stored? name id = none :=
      Store.stored?_delete s name id
    cases hgone.symm.trans he'
  · obtain ⟨e₁, he₁, hown⟩ := Store.entry_kept he hop
    cases he₁.symm.trans he'
    exact hown ownerField Store.isSystem_ownerField (by decide)

def StaysThrough (engine : Engine) (name id : String) : Store → List Turn → Prop
  | s, [] => ∃ e, s.collections.stored? name id = some e
  | s, t :: rest =>
    (∃ e, s.collections.stored? name id = some e) ∧ StaysThrough engine name id (t.run engine s).2 rest

theorem StaysThrough.stored? {turns : List Turn} (h : StaysThrough engine name id s turns) :
    ∃ e, s.collections.stored? name id = some e := by
  cases turns with
  | nil => exact h
  | cons t rest => exact h.1

/-- As long as a record is there it belongs to whom it did. -/
theorem owner_stays {turns : List Turn} (he : s.collections.stored? name id = some e)
    (h : StaysThrough engine name id s turns) :
    ∃ e', (afterTurns engine s turns).collections.stored? name id = some e' ∧
      e'.record.get? ownerField = e.record.get? ownerField := by
  induction turns generalizing s e with
  | nil => exact ⟨e, he, rfl⟩
  | cons t rest ih =>
    obtain ⟨e₁, he₁⟩ := h.2.stored?
    obtain ⟨e₂, he₂, hown⟩ := ih he₁ h.2
    exact ⟨e₂, he₂, hown.trans (Turn.keeps_owner he he₁)⟩

end Turns

/-! ## A collection limited to owners -/

structure OwnersAlone (engine : Engine) (name : String) (s : Store) : Prop where
  /-- Whoever changes or removes a record owns it. -/
  changes : ∀ {t : Turn} {id : String} {e : Entry}, t.call.caller.isAdmin = false →
    s.collections.stored? name id = some e → (t.run engine s).2.collections.stored? name id ≠ some e →
      Owns t.call.caller e.record
  /-- A record without an owner is never changed. -/
  unowned : ∀ {future : List Turn} {id : String} {e : Entry}, (∀ t ∈ future, t.call.caller.isAdmin = false) →
    s.collections.stored? name id = some e →
    e.record.get? ownerField = none ∨ e.record.get? ownerField = some .null →
      (afterTurns engine s future).collections.stored? name id = some e
  /-- A record that comes with a call belongs to the caller for as long as it is there. -/
  created : ∀ {t : Turn} {future : List Turn} {id : String} {e : Entry}, s.collections.stored? name id = none →
    (t.run engine s).2.collections.stored? name id = some e →
    StaysThrough engine name id (t.run engine s).2 future →
      ∃ e' userId, (afterTurns engine (t.run engine s).2 future).collections.stored? name id = some e' ∧
        t.call.caller.userId = .ok userId ∧ e'.record.get? ownerField = userId.map .text

theorem Owns.owned {caller : Caller} {record : Record} (h : Owns caller record) :
    ¬ (record.get? ownerField = none ∨ record.get? ownerField = some .null) := by
  obtain ⟨_, _, owner, -, -, howner, hnull, -⟩ := h
  rintro (hnone | hn)
  · cases howner.symm.trans hnone
  · cases howner.symm.trans hn
    exact hnull rfl

/-- A change of one record by a call without the override is a change by its owner, so a record
that has none goes through all calls as it is. -/
theorem unowned_stays {engine : Engine} {name id : String} {e : Entry}
    (hchanges : ∀ {s : Store} {t : Turn}, t.call.caller.isAdmin = false →
      s.collections.stored? name id = some e → (t.run engine s).2.collections.stored? name id ≠ some e →
        Owns t.call.caller e.record)
    (hfree : e.record.get? ownerField = none ∨ e.record.get? ownerField = some .null)
    {s : Store} {future : List Turn} (hadmin : ∀ t ∈ future, t.call.caller.isAdmin = false)
    (he : s.collections.stored? name id = some e) :
    (afterTurns engine s future).collections.stored? name id = some e := by
  induction future generalizing s with
  | nil => exact he
  | cons t rest ih =>
    refine ih (fun u hu => hadmin u (List.mem_cons_of_mem t hu)) (Classical.byContradiction fun hne => ?_)
    exact (hchanges (hadmin t List.mem_cons_self) he hne).owned hfree

/-- If the rules document limits a collection to owners, then its records are changed by their
owners alone, whatever calls have come before. -/
theorem limited_to_owners {registry : Rule.Registry} {lookup : Option Rule.Lookup} {document : Rule.Document}
    {engine : Engine} {name : String} (hdoc : Engine.ofDocument registry lookup document = .ok engine)
    (hlimits : LimitsToOwners document name) (seeded : Store) (past : List Turn) :
    OwnersAlone engine name (afterTurns engine seeded past) where
  changes hadmin he hne :=
    Turn.changes_by_owner (fun _ ha hname _ _ => Rule.resolve_of_limitsToOwners hdoc hlimits hname ha) hadmin he hne
  unowned hadmin he hfree :=
    unowned_stays
      (Turn.changes_by_owner fun _ ha hname _ _ => Rule.resolve_of_limitsToOwners hdoc hlimits hname ha)
      hfree hadmin he
  created hnone he hstays := by
    obtain ⟨e', he', hown⟩ := owner_stays he hstays
    obtain ⟨userId, huser, howner⟩ := Turn.creates_owned hnone he
    exact ⟨e', userId, he', huser, hown.trans howner⟩

/-! ### Two owners of books -/

def ownersBooks : Rule.Document :=
  .object [("books", .object [(".update", .list [.text "Owner"]), (".delete", .list [.text "Owner"])])]

def ownersEngine : Engine :=
  ⟨.builtIn, none, Rule.builtInDefaults,
    [(.text "books", ⟨[(".update", .roles [.owner]), (".delete", .roles [.owner])], [], []⟩)]⟩

def ownersShelf : Store :=
  ⟨[("books", [("b1", .ofRecord [("_ownerId", .text "u1")]), ("b2", .ofRecord [("title", .text "Emma")])])],
    .numbered ["b3"], .ofReadings 1000 []⟩

def claimBook (user book : String) : Turn :=
  ⟨none, [], "PATCH",
    ⟨⟨some [("_id", .text user)], false, none⟩, some "books", [book], [],
      .ofValue (.object [("_ownerId", .text user)])⟩⟩

def giftBook : Turn :=
  ⟨none, [], "POST",
    ⟨⟨some [("_id", .text "u2")], false, none⟩, some "books", [], [],
      .ofValue (.object [("_ownerId", .text "u1")])⟩⟩

theorem ownersEngine_of_books : Engine.ofDocument .builtIn none ownersBooks = .ok ownersEngine := rfl

theorem ownersBooks_limits : LimitsToOwners ownersBooks "books" where
  distinct := by decide
  update := rfl
  delete := rfl
  sections key d hd := by
    have hbooks : Rule.Document.under? (.object [(.text ".update", .list [.text "Owner"]),
        (.text ".delete", .list [.text "Owner"])]) [key] = some d := hd
    rw [Rule.Document.under?_singleton, Rule.Document.members, Keyed.get?_cons, Keyed.get?_cons] at hbooks
    split at hbooks
    · rename_i hupdate
      obtain rfl : ".update" = key := eq_of_beq ((Key.text_beq_text ..).symm.trans hupdate)
      exact Or.inl (by decide)
    split at hbooks
    · rename_i hdelete
      obtain rfl : ".delete" = key := eq_of_beq ((Key.text_beq_text ..).symm.trans hdelete)
      exact Or.inl (by decide)
    · cases hbooks

def claimedShelf : Store := afterTurns ownersEngine ownersShelf [claimBook "u2" "b1"]

def giftedShelf : Store := (giftBook.run ownersEngine claimedShelf).2

def gift : Entry := .ofRecord [("_ownerId", .text "u2"), ("_createdOn", .int 1000)]

theorem stored?_gift : giftedShelf.collections.stored? "books" "b3" = some gift := by cbv

theorem stored?_gift_claimed :
    (afterTurns ownersEngine giftedShelf [claimBook "u1" "b3"]).collections.stored? "books" "b3" = some gift := by cbv

/-- The second user has asked for the first one's book in vain, so the book changes when the first
user's call changes it; the book of nobody stays as it is; and a book that the second user adds
is the second user's own, whoever asks for it. -/
theorem limited_to_owners_claimed :
    Engine.ofDocument .builtIn none ownersBooks = .ok ownersEngine ∧ LimitsToOwners ownersBooks "books" ∧
      ((claimBook "u1" "b1").run ownersEngine claimedShelf).2.collections.stored? "books" "b1" =
        some (.ofRecord [("_ownerId", .text "u1"), ("_updatedOn", .int 1000)]) ∧
      Owns (claimBook "u1" "b1").call.caller [("_ownerId", .text "u1")] ∧
      (afterTurns ownersEngine claimedShelf [claimBook "u1" "b2", claimBook "u2" "b2"]).collections.stored?
        "books" "b2" = some (.ofRecord [("title", .text "Emma")]) ∧
      ∃ e, (afterTurns ownersEngine giftedShelf [claimBook "u1" "b3"]).collections.stored? "books" "b3" = some e ∧
        e.record.get? ownerField = some (.text "u2") := by
  have halone : OwnersAlone ownersEngine "books" claimedShelf :=
    limited_to_owners ownersEngine_of_books ownersBooks_limits ownersShelf [claimBook "u2" "b1"]
  have hchanged : ((claimBook "u1" "b1").run ownersEngine claimedShelf).2.collections.stored? "books" "b1" =
      some (.ofRecord [("_ownerId", .text "u1"), ("_updatedOn", .int 1000)]) := by cbv
  have hb1 : claimedShelf.collections.stored? "books" "b1" = some (.ofRecord [("_ownerId", .text "u1")]) := by cbv
  have hb2 : claimedShelf.collections.stored? "books" "b2" = some (.ofRecord [("title", .text "Emma")]) := by cbv
  have hb3 : claimedShelf.collections.stored? "books" "b3" = none := by cbv
  refine ⟨ownersEngine_of_books, ownersBooks_limits, hchanged, halone.changes rfl hb1 ?_,
    halone.unowned (by simp [claimBook]) hb2 (.inl rfl), ?_⟩
  · rw [hchanged]
    decide
  · obtain ⟨e, userId, he, huser, howner⟩ :=
      halone.created (t := giftBook) hb3 stored?_gift
        (show StaysThrough ownersEngine "books" "b3" giftedShelf [claimBook "u1" "b3"] from
          ⟨⟨gift, stored?_gift⟩, gift, stored?_gift_claimed⟩)
    cases huser
    exact ⟨e, he, howner⟩

end Service

end DocumentStore
