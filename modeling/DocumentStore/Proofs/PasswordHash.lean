/-
  DocumentStore.Proofs.PasswordHash — password hashes and the service of collections.

  Two runs of a call are compared, on accounts and for callers that are the same but for password
  hashes. A hash stands in a record of an account, which a join may find, and in the record of
  the caller, which the rules are decided on. A join takes it out, and plain rules do not look
  at it; nothing else of these records is read. So the two runs end the same, in their result and
  in the store that they leave (`dispatch_ignores_password_hashes`).
-/

import DocumentStore.Proofs.OwnersOnly
import DocumentStore.Proofs.TwoReads

namespace DocumentStore

open Query (passwordHash)

namespace Caller

/-- The callers are the same but for the password hash in the user's record; their tokens are
not looked at. -/
structure SameButHash (a b : Caller) : Prop where
  user : a.user.map (·.erase passwordHash) = b.user.map (·.erase passwordHash)
  isAdmin : a.isAdmin = b.isAdmin

theorem idOf_erase_hash (user : Option Record) : Record.idOf (user.map (·.erase passwordHash)) = Record.idOf user := by
  have hid : ∀ record : Record, Keyed.get? (record.erase passwordHash) "_id" = Keyed.get? record "_id" :=
    fun record => Keyed.get?_erase_of_ne record (by decide)
  rw [Record.idOf, Record.idOf, Option.bind_map]
  simp only [Function.comp_def, hid]

theorem SameButHash.alike {a b : Caller} (h : a.SameButHash b) : a.Alike b where
  someone := by
    have := congrArg Option.isSome h.user
    simpa only [Option.isSome_map] using this
  userId := by
    rw [userId, userId, ← idOf_erase_hash a.user, h.user, idOf_erase_hash]
  isAdmin := h.isAdmin

end Caller

namespace Service

open Query (Directives FindAlike Found)
open Rule (Engine Lookup)

/-! ## Two runs -/

/-- A join finds the same with and without the hashes in the accounts. -/
theorem findAlike_of_accounts {users₁ users₂ : Collections}
    (husers : users₁.without usersCollection passwordHash = users₂.without usersCollection passwordHash)
    (data : Collections) (collection : String) :
    FindAlike (related data users₁) (related data users₂) collection := by
  intro id
  unfold related
  split
  · rename_i h
    rw [h, ← Collections.getOne_without (by decide), husers, Collections.getOne_without (by decide)]
  · rfl

/-- The one engine lets `a` pass as the other lets `b`, and hides the same from both. -/
def GatesAlike (engine₁ engine₂ : Engine) (a b : Caller) : Prop :=
  ∀ action collection data newData,
    engine₁.gate a action collection data newData = engine₂.gate b action collection data newData

section TwoRuns

variable {engine₁ engine₂ : Engine} {a b : Caller}

theorem passRead_alike (hgate : GatesAlike engine₁ engine₂ a b) (collection : Option String) (value : Value) :
    engine₁.passRead a collection value = engine₂.passRead b collection value := by
  unfold Engine.passRead
  split
  · rename_i records _
    refine Engine.hiddenEach_alike (p := fun _ => false) (fun r₁ r₂ h => ?_) rfl
    obtain rfl : r₁ = r₂ := by simpa using h
    exact hgate .read collection (some r₁) none
  · rw [hgate]

theorem get_alike {data users₁ users₂ : Collections} (hgate : GatesAlike engine₁ engine₂ a b)
    (hfind : ∀ collection, FindAlike (related data users₁) (related data users₂) collection) (call : Call) :
    get engine₁ data users₁ { call with caller := a } = get engine₂ data users₂ { call with caller := b } := by
  have hread : ∀ name, readFrom engine₁ data users₁ name { call with caller := a } =
      readFrom engine₂ data users₂ name { call with caller := b } := by
    intro name
    refine readFrom_alike (p := fun _ => false) (fun _ _ => rfl) (fun _ _ load _ => ⟨hfind load.collection, rfl⟩)
      (fun r₁ r₂ h => ?_) (fun _ _ _ _ hf => absurd hf Bool.false_ne_true)
    obtain rfl : r₁ = r₂ := by simpa using h
    exact hgate .read (some name) (some r₁) none
  have hnames : ∀ value, engine₁.readResult a call.collection value = engine₂.readResult b call.collection value := by
    intro value
    rw [Engine.readResult, Engine.readResult, passRead_alike hgate]
  simp only [get, requireShortPath, requireCollection, hread, hnames]

theorem passWrite_alike (hgate : GatesAlike engine₁ engine₂ a b) (action : Rule.Action) (name : String)
    (data : Option Record) (payload : Draft.Members) :
    engine₁.passWrite a action name data payload = engine₂.passWrite b action name data payload := by
  rw [Engine.passWrite, Engine.passWrite, hgate]

theorem post_alike (hc : a.Alike b) (hgate : GatesAlike engine₁ engine₂ a b) (s : Store) (call : Call) :
    post engine₁ s { call with caller := a } = post engine₂ s { call with caller := b } := by
  have hprepare : prepareCreate engine₁ { call with caller := a } = prepareCreate engine₂ { call with caller := b } := by
    simp only [prepareCreate, requireShortPath, requireCollection, requirePayload, passWrite_alike hgate, hc.userId]
  simp only [post, hprepare]

theorem update_alike (hgate : GatesAlike engine₁ engine₂ a b)
    (write : Store → Key → String → Draft → Except Failure Record × Store) (s : Store) (call : Call) :
    update engine₁ write s { call with caller := a } = update engine₂ write s { call with caller := b } := by
  have hprepare : prepareUpdate engine₁ s.collections { call with caller := a } =
      prepareUpdate engine₂ s.collections { call with caller := b } := by
    simp only [prepareUpdate, target, requireShortPath, requireId, requireCollection, requirePayload,
      passWrite_alike hgate]
  simp only [update, hprepare]

theorem delete_alike (hgate : GatesAlike engine₁ engine₂ a b) (s : Store) (call : Call) :
    delete engine₁ s { call with caller := a } = delete engine₂ s { call with caller := b } := by
  have hprepare : prepareDelete engine₁ s.collections { call with caller := a } =
      prepareDelete engine₂ s.collections { call with caller := b } := by
    simp only [prepareDelete, target, requireShortPath, requireId, requireCollection, hgate .delete]
  simp only [delete, hprepare]

end TwoRuns

/-- No call tells anything of a password hash. On accounts and for callers that are the same but
for hashes it has the same result, or fails with the same failure, and leaves the same store. -/
theorem dispatch_ignores_password_hashes {engine : Engine} (hplain : engine.rules.Plain) {a b : Caller}
    (hcallers : a.SameButHash b) {users₁ users₂ : Collections}
    (husers : users₁.without usersCollection passwordHash = users₂.without usersCollection passwordHash)
    (lookup₁ lookup₂ : Option Lookup) (s : Store) (method : String) (call : Call) :
    dispatch { engine with lookup := lookup₁ } users₁ s method { call with caller := a } =
      dispatch { engine with lookup := lookup₂ } users₂ s method { call with caller := b } := by
  have hgate : GatesAlike { engine with lookup := lookup₁ } { engine with lookup := lookup₂ } a b :=
    fun _ _ _ newData => Engine.gate_alike hplain hcallers.alike lookup₁ lookup₂ rfl rfl newData
  unfold dispatch
  cases Method.ofText? method with
  | none => rfl
  | some m =>
    cases m with
    | get => exact congrArg (·, s) (get_alike hgate (findAlike_of_accounts husers s.collections) call)
    | post => exact post_alike hcallers.alike hgate s call
    | put => exact update_alike hgate Store.replace s call
    | patch => exact update_alike hgate Store.merge s call
    | delete => exact delete_alike hgate s call

/-! ### The owner of a book -/

def hashedAccount (hash : String) : Collections :=
  [("users", [("u1", .ofRecord [("email", .text "ann@example.org"), ("hashedPassword", .text hash)])])]

def readOwned (hash : String) : Call :=
  ⟨⟨some [("hashedPassword", .text hash), ("_id", .text "u1")], false, none⟩, some "books", [],
    [("load", "owner=_ownerId:users")], .null⟩

def booksWithOwners : Value :=
  .list
    [.object [("_ownerId", .text "u1"), ("_id", .text "b1"),
      ("owner", .object [("email", .text "ann@example.org"), ("_id", .text "u1")])],
    .object [("title", .text "Emma"), ("_id", .text "b2"), ("owner", .null)]]

theorem readOwned_parse (hash : String) : Directives.parse (readOwned hash).params =
    .ok { Directives.none with load := [⟨"owner", "_ownerId", "users"⟩] } := rfl

theorem readOwned_answer : dispatch ownersEngine (hashedAccount "5f4d") ownersShelf "GET" (readOwned "5f4d") =
    (.ok booksWithOwners, ownersShelf) := by
  have hread : readFrom ownersEngine ownersShelf.collections (hashedAccount "5f4d") "books" (readOwned "5f4d") =
      .ok booksWithOwners := by
    unfold readFrom
    rw [readOwned_parse]
    cbv
  rw [dispatch_get (by decide)]
  exact congrArg (·, ownersShelf) hread

theorem readOwned_same (x y : String) : (readOwned x).caller.SameButHash (readOwned y).caller := ⟨rfl, rfl⟩

theorem hashedAccount_same (x y : String) :
    (hashedAccount x).without usersCollection passwordHash = (hashedAccount y).without usersCollection passwordHash := rfl

/-- Whatever the owner's password hash is, the books are read as with another. -/
theorem dispatch_ignores_password_hashes_joined :
    ownersEngine.rules.Plain ∧ (readOwned "5f4d").caller.SameButHash (readOwned "9a1c").caller ∧
      (hashedAccount "5f4d").without usersCollection passwordHash =
        (hashedAccount "9a1c").without usersCollection passwordHash ∧
      dispatch ownersEngine (hashedAccount "5f4d") ownersShelf "GET" (readOwned "5f4d") = (.ok booksWithOwners, ownersShelf) ∧
      dispatch ownersEngine (hashedAccount "9a1c") ownersShelf "GET" (readOwned "9a1c") = (.ok booksWithOwners, ownersShelf) := by
  have hplain : ownersEngine.rules.Plain := Rule.plain_ofDocument rfl ownersEngine_of_books
  refine ⟨hplain, readOwned_same _ _, hashedAccount_same _ _, readOwned_answer, ?_⟩
  rw [← readOwned_answer]
  exact (dispatch_ignores_password_hashes hplain (readOwned_same "5f4d" "9a1c") (hashedAccount_same _ _) none none
    ownersShelf "GET" (readOwned "5f4d")).symm

end Service

end DocumentStore
