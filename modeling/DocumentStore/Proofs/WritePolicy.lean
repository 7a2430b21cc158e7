/-
  DocumentStore.Proofs.WritePolicy — the rules of single fields, seen from a write.

  A write loses the fields it may not set before it reaches the store. What that does to the
  stored record depends on the write, and the answer is not redacted again:
  - `change_of_denied_field`: a field that the caller may not change keeps its value, or its
    absence, under every merge and every refused change. A replacement keeps only what the
    payload gives, so it takes the field out (`replacement_drops_denied_field`).
  - `write_answers_stored_record`: the answer is the whole record as it is stored now, asked
    of no rule for reading (`merge_shows_unreadable_field`). But what it shows is the
    store's own, or came with the body, or, for a merge, was in the record before.
-/

import Mathlib
import DocumentStore.Proofs.Writes

namespace DocumentStore.Service

open Rule (Action Engine)
open Store (Entry isSystem)

variable {engine : Engine} {users : Collections} {s s' : Store}

/-! ## Fields that may not be changed -/

section Denied

variable {caller : Caller} {name id field : String} {body record : Record} (params : Query.Params)
  {write : Store → Key → String → Draft → Except Failure Record × Store}
  {change : Entry → Entry → Int → Entry}

theorem denied_not_passed {hidden : List String}
    (hg : engine.gate caller .update (some name) (some record) (some (Draft.ofMembers body)) = .ok hidden)
    (hd : engine.Denies caller .update (some name) (some record) (some (Draft.ofMembers body)) field) :
    ∀ f ∈ (Engine.redact hidden body).drop isSystem, f.1 ≠ field := by
  rintro f hf rfl
  exact (Engine.mem_redact (Entry.mem_drop_isSystem.mp hf).1).2 (Engine.mem_of_denies hg hd)

/-- If `keep` is what `change` does to a field that no change bears, then it is what the write
does to a field that the caller may not change. -/
theorem update_denied_field (hw : Store.Puts write change) (keep : Option Value → Option Value)
    (hk : ∀ (e : Entry) (ms : Record) (now : Int), (∀ f ∈ ms, f.1 ≠ field) →
      (change e (.ofRecord ms) now).record.get? field = keep (e.record.get? field))
    (hr : s.collections.getOne name id = .ok record) (hf : isSystem field = false)
    (hd : engine.Denies caller .update (some name) (some record) (some (Draft.ofMembers body)) field) :
    let out := update engine write s ⟨caller, some name, [id], params, Draft.ofValue (.object body)⟩
    ∃ after, out.2.collections.getOne name id = .ok after ∧
      after.get? field = if out.1.isOk then keep (record.get? field) else record.get? field := by
  intro out
  rcases hout : out with ⟨r, s'⟩
  cases r with
  | error f =>
    obtain rfl : s' = s := update_error hw rfl hout
    exact ⟨record, hr, rfl⟩
  | ok v =>
    obtain ⟨name', id', payload, hidden, e, record', changes, answer, hc, hpath, hb, he, hread, hg, hchanges,
      -, hanswer, rfl⟩ := update_ok hw hout
    cases hc
    cases hpath
    obtain rfl : payload = Draft.ofMembers body := (Option.some.inj hb).symm
    rw [Engine.eraseAll_ofMembers, Entry.ofPayload_ofMembers] at hchanges
    cases hchanges
    obtain rfl : record' = record := by
      rw [Collections.getOne_of_entry he, hread] at hr
      exact Except.ok.inj hr
    refine ⟨answer, ?_, ?_⟩
    · rw [Collections.getOne_of_entry (Collections.entry_putEntry ..)]
      exact hanswer
    · rw [Entry.get?_read hanswer hf, hk e _ _ (denied_not_passed hg hd), Entry.get?_read hread hf]
      rfl

/-- A field that the caller may not change, after a change of its record. A merge leaves it as
it was, whatever comes out of the call, and so does a replacement that is refused. One that
goes through takes it out. -/
theorem change_of_denied_field {method : String} (hr : s.collections.getOne name id = .ok record)
    (hf : isSystem field = false)
    (hd : engine.Denies caller .update (some name) (some record) (some (Draft.ofMembers body)) field) :
    let out := dispatch engine users s method ⟨caller, some name, [id], params, Draft.ofValue (.object body)⟩
    (Method.ofText? method = some .patch →
      ∃ after, out.2.collections.getOne name id = .ok after ∧ after.get? field = record.get? field) ∧
    (Method.ofText? method = some .put →
      ∃ after, out.2.collections.getOne name id = .ok after ∧
        after.get? field = if out.1.isOk then none else record.get? field) := by
  intro out
  constructor
  · intro hm
    have hkeep : ∀ (e : Entry) (ms : Record) (now : Int), (∀ f ∈ ms, f.1 ≠ field) →
        (e.merge (.ofRecord ms) now).record.get? field = e.record.get? field := by
      intro e ms now hms
      rw [Entry.get?_merge hf]
      exact Keyed.get?_overlay_of_forall_ne hms e.record
    obtain ⟨after, ha, hv⟩ := update_denied_field params Store.puts_merge (fun w => w) hkeep hr hf hd
    rw [show out = _ from dispatch_patch hm _]
    exact ⟨after, ha, by rw [hv, ite_self]⟩
  · intro hm
    have hdrop : ∀ (e : Entry) (ms : Record) (now : Int), (∀ f ∈ ms, f.1 ≠ field) →
        (e.replace (.ofRecord ms) now).record.get? field = none := by
      intro e ms now hms
      rw [Entry.get?_replace hf]
      exact Keyed.get?_eq_none_of_forall fun f hm => beq_eq_false_iff_ne.mpr (hms f hm)
    rw [show out = _ from dispatch_put hm _]
    exact update_denied_field params Store.puts_replace (fun _ => none) hdrop hr hf hd

end Denied

/-! ### A book whose rating is closed -/

/-- Rules under which nobody reads or changes the rating of a book. -/
def closedRating : Rule.Document :=
  .object [("books", .object [("*", .object [("rating", .object [(".read", .bool false), (".update", .bool false)])])])]

def closedEngine : Engine :=
  ⟨.builtIn, none, Rule.builtInDefaults,
    [(.text "books", ⟨[], [("rating", [(".read", .deny), (".update", .deny)])], []⟩)]⟩

def shelf : Store :=
  ⟨[("books", [("b1", .ofRecord [("title", .text "Dune"), ("rating", .int 5)])])], .numbered [], .ofReadings 1000 []⟩

def dune : Record := [("title", .text "Dune"), ("rating", .int 5), ("_id", .text "b1")]

def duneTouched : Record :=
  [("title", .text "Dune"), ("rating", .int 5), ("_updatedOn", .int 1000), ("_id", .text "b1")]

def clerk : Caller := ⟨some [("_id", .text "u1")], false, none⟩

def changeDune (body : Record) : Call := ⟨clerk, some "books", ["b1"], [], Draft.ofValue (.object body)⟩

theorem closedEngine_of_rules : Engine.ofDocument .builtIn none closedRating = .ok closedEngine := rfl

theorem getOne_shelf : shelf.collections.getOne "books" "b1" = .ok dune := rfl

theorem rating_closed (newData : Option Draft.Members) :
    closedEngine.Denies clerk .update (some "books") (some dune) newData "rating" :=
  ⟨_, .deny, rfl, rfl, rfl⟩

/-- The clerk's merge leaves the rating at 5. -/
theorem change_of_denied_field_merged :
    let body : Record := [("title", .text "Emma"), ("rating", .int 1)]
    shelf.collections.getOne "books" "b1" = .ok dune ∧ isSystem "rating" = false ∧
      closedEngine.Denies clerk .update (some "books") (some dune) (some (Draft.ofMembers body)) "rating" ∧
      ∃ after, (dispatch closedEngine [] shelf "PATCH" (changeDune body)).2.collections.getOne "books" "b1" = .ok after ∧
        after.get? "rating" = some (.int 5) :=
  ⟨getOne_shelf, by decide, rating_closed _,
    (change_of_denied_field [] getOne_shelf (by decide) (rating_closed _)).1 (by decide)⟩

/-- The clerk's replacement takes the rating out, though the clerk may not change it. -/
theorem replacement_drops_denied_field :
    let body : Record := [("title", .text "Emma")]
    Engine.ofDocument .builtIn none closedRating = .ok closedEngine ∧
      shelf.collections.getOne "books" "b1" = .ok dune ∧
      closedEngine.Denies clerk .update (some "books") (some dune) (some (Draft.ofMembers body)) "rating" ∧
      dune.get? "rating" = some (.int 5) ∧
      ∃ after, (dispatch closedEngine [] shelf "PUT" (changeDune body)).2.collections.getOne "books" "b1" = .ok after ∧
        after.get? "rating" = none :=
  ⟨closedEngine_of_rules, getOne_shelf, rating_closed _, by decide,
    [("title", .text "Emma"), ("_updatedOn", .int 1000), ("_id", .text "b1")], by cbv, by decide⟩

/-! ## What a write answers -/

/-- What stands under the field is the store's own, or is of the payload and may be set. -/
def Supplied (engine : Engine) (caller : Caller) (action : Action) (name : String)
    (data : Option Record) (sent : Draft.Members) (field : String) (value : Value) : Prop :=
  isSystem field = true ∨ ∃ draft, (.text field, draft) ∈ sent ∧ draft.check = .ok value ∧
    ¬ engine.Denies caller action (some name) data (some sent) field

section Answers

variable {call : Call} {method : String} {v : Value}

theorem supplied_of_stored {action : Action} {name : String} {data : Option Record} {sent : Draft.Members}
    {hidden : List String} {field : String} {draft : Draft} {value : Value}
    (hg : engine.gate caller action (some name) data (some sent) = .ok hidden)
    (hm : (.text field, draft) ∈ Engine.eraseAll hidden sent) (hv : draft.check = .ok value) :
    Supplied engine caller action name data sent field value := by
  obtain ⟨hs, hn⟩ := Engine.mem_eraseAll hm
  exact Or.inr ⟨draft, hs, hv, fun hd => hn (Engine.mem_of_denies hg hd)⟩

theorem post_answers (h : post engine s call = (.ok v, s')) :
    ∃ (name id : String) (answer : Record) (sent : Draft.Members),
      call.collection = some name ∧ call.body.members? = some sent ∧ v = .object answer ∧
      s'.collections.getOne name id = .ok answer ∧
      ∀ field value, answer.get? field = some value →
        Supplied engine call.caller .create name none sent field value := by
  obtain ⟨name, sent, hidden, userId, e, answer, hc, hb, hg, -, hcreate, hv, hread, rfl⟩ := post_ok h
  obtain ⟨stored, hstored, hfields⟩ := Entry.create_eq_ok hcreate
  refine ⟨name, (s.nextId name).1, answer, sent, hc, hb, hv, ?_, ?_⟩
  · rw [Collections.getOne_of_entry (Collections.entry_putEntry ..)]
    exact hread
  · intro field value hval
    cases hs : isSystem field with
    | true => exact Or.inl hs
    | false =>
      rw [Entry.get?_read hread hs, Entry.get?_put _ Store.isSystem_createdField hs, hfields field hs] at hval
      obtain ⟨draft, hm, hcheck⟩ := Entry.mem_ofPayload hstored (Keyed.mem_of_get? hval)
      exact supplied_of_stored hg (mem_ownedBy hs hm) hcheck

/-- If an entry that `change` made holds nothing but the changes, and the old fields where it
`keeps` them, then so does the answer. -/
theorem update_answers {write : Store → Key → String → Draft → Except Failure Record × Store}
    {change : Entry → Entry → Int → Entry} (hw : Store.Puts write change) (keeps : Prop)
    (hk : ∀ (e changes : Entry) (now : Int) (field : String) (value : Value),
      isSystem field = false → (change e changes now).record.get? field = some value →
        (field, value) ∈ changes.record ∨ keeps ∧ e.record.get? field = some value)
    (h : update engine write s call = (.ok v, s')) :
    ∃ (name id : String) (answer : Record) (sent : Draft.Members),
      call.collection = some name ∧ call.body.members? = some sent ∧ v = .object answer ∧
      s'.collections.getOne name id = .ok answer ∧
      ∃ before : Record, call.path = [id] ∧ s.collections.getOne name id = .ok before ∧
        ∀ field value, answer.get? field = some value →
          Supplied engine call.caller .update name (some before) sent field value ∨
            (keeps ∧ before.get? field = some value) := by
  obtain ⟨name, id, sent, hidden, e, before, changes, answer, hc, hpath, hb, he, hbefore, hg, hchanges, hv,
    hread, rfl⟩ := update_ok hw h
  refine ⟨name, id, answer, sent, hc, hb, hv, ?_, before, hpath, ?_, ?_⟩
  · rw [Collections.getOne_of_entry (Collections.entry_putEntry ..)]
    exact hread
  · rw [Collections.getOne_of_entry he]
    exact hbefore
  · intro field value hval
    cases hs : isSystem field with
    | true => exact Or.inl (Or.inl hs)
    | false =>
      rw [Entry.get?_read hread hs] at hval
      rcases hk _ _ _ _ _ hs hval with hm | ⟨hkeeps, hold⟩
      · obtain ⟨draft, hm, hcheck⟩ := Entry.mem_ofPayload hchanges hm
        exact Or.inl (supplied_of_stored hg hm hcheck)
      · exact Or.inr ⟨hkeeps, by rw [Entry.get?_read hbefore hs, hold]⟩

/-- A write that is not refused answers the record as it is stored now, the whole of it. A
creation and a replacement show by that no more than the store's own fields and what the
caller sent and may set, a merge also what the record held before. -/
theorem write_answers_stored_record {m : Method} (hm : Method.ofText? method = some m)
    (hw : m = .post ∨ m = .put ∨ m = .patch)
    (h : dispatch engine users s method call = (.ok v, s')) :
    ∃ (name id : String) (answer : Record) (sent : Draft.Members),
      call.collection = some name ∧ call.body.members? = some sent ∧ v = .object answer ∧
      s'.collections.getOne name id = .ok answer ∧
      (m = .post → ∀ field value, answer.get? field = some value →
        Supplied engine call.caller .create name none sent field value) ∧
      (m ≠ .post → ∃ before : Record, call.path = [id] ∧ s.collections.getOne name id = .ok before ∧
        ∀ field value, answer.get? field = some value →
          Supplied engine call.caller .update name (some before) sent field value ∨
            (m = .patch ∧ before.get? field = some value)) := by
  rcases hw with rfl | rfl | rfl
  · rw [dispatch_post hm] at h
    obtain ⟨name, id, answer, sent, hc, hb, hv, ha, hs⟩ := post_answers h
    exact ⟨name, id, answer, sent, hc, hb, hv, ha, fun _ => hs, fun hne => absurd rfl hne⟩
  · rw [dispatch_put hm] at h
    obtain ⟨name, id, answer, sent, hc, hb, hv, ha, hs⟩ :=
      update_answers Store.puts_replace (Method.put = .patch) (fun e changes now field value hf hval => by
        rw [Entry.get?_replace hf] at hval
        exact Or.inl (Keyed.mem_of_get? hval)) h
    exact ⟨name, id, answer, sent, hc, hb, hv, ha, fun e => (by cases e), fun _ => hs⟩
  · rw [dispatch_patch hm] at h
    obtain ⟨name, id, answer, sent, hc, hb, hv, ha, hs⟩ :=
      update_answers Store.puts_merge (Method.patch = .patch) (fun e changes now field value hf hval => by
        rw [Entry.get?_merge hf] at hval
        exact (Keyed.mem_or_get?_of_get?_overlay hval).imp_right fun hold => ⟨rfl, hold⟩) h
    exact ⟨name, id, answer, sent, hc, hb, hv, ha, fun e => (by cases e), fun _ => hs⟩

end Answers

/-- The clerk's empty merge is answered with the book as it is stored, which has nothing but
the store's own fields and what the book held before. -/
theorem write_answers_stored_record_merged :
    Method.ofText? "PATCH" = some .patch ∧
      (dispatch closedEngine [] shelf "PATCH" (changeDune [])).1 = .ok (.object duneTouched) ∧
      (dispatch closedEngine [] shelf "PATCH" (changeDune [])).2.collections.getOne "books" "b1" = .ok duneTouched ∧
      ∀ field value, duneTouched.get? field = some value →
        isSystem field = true ∨ dune.get? field = some value := by
  have hm : Method.ofText? "PATCH" = some .patch := by decide
  have hv : (dispatch closedEngine [] shelf "PATCH" (changeDune [])).1 = .ok (.object duneTouched) := by cbv
  have hout : dispatch closedEngine [] shelf "PATCH" (changeDune []) =
      (.ok (.object duneTouched), (dispatch closedEngine [] shelf "PATCH" (changeDune [])).2) := Prod.ext hv rfl
  obtain ⟨name, id, answer, sent, hc, hb, ha, hs, -, hchange⟩ :=
    write_answers_stored_record hm (Or.inr (Or.inr rfl)) hout
  obtain ⟨before, hpath, hbefore, hfields⟩ := hchange (by decide)
  cases hc
  cases hb
  cases ha
  cases hpath
  rw [getOne_shelf] at hbefore
  cases hbefore
  refine ⟨hm, hv, hs, fun field value hval => ?_⟩
  rcases hfields field value hval with (hown | ⟨draft, hsent, -⟩) | ⟨-, hold⟩
  · exact Or.inl hown
  · cases hsent
  · exact Or.inr hold

/-- An empty merge shows the clerk the rating, which the clerk may not read. -/
theorem merge_shows_unreadable_field :
    Engine.ofDocument .builtIn none closedRating = .ok closedEngine ∧
      (dispatch closedEngine [] shelf "PATCH" (changeDune [])).1 = .ok (.object duneTouched) ∧
      (dispatch closedEngine [] shelf "PATCH" (changeDune [])).2.collections.getOne "books" "b1" = .ok duneTouched ∧
      closedEngine.Denies clerk .read (some "books") (some duneTouched) none "rating" ∧
      duneTouched.get? "rating" = some (.int 5) :=
  ⟨closedEngine_of_rules, by cbv, by cbv, ⟨_, .deny, rfl, rfl, rfl⟩, by decide⟩

end DocumentStore.Service
