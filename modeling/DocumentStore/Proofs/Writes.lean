/-
  DocumentStore.Proofs.Writes — what a write leaves in the store.

  A write by the service is a check, then one write of the store.
  - `update_ok`, `post_ok`: what a change or a creation that is not refused has met, what it
    puts into the store and what it answers.
  - `delete_ok`: what a deletion that is not refused has found and takes out.
  - `update_error`: a change with a JSON body that is refused leaves the store as it was. With
    such a body the store has nothing to refuse any more.
  Replacing and merging differ in one function on entries (`puts_replace`, `puts_merge`).
-/

import DocumentStore.Proofs.Collections
import DocumentStore.Proofs.Gate
import DocumentStore.Proofs.Operations
import DocumentStore.Service

namespace DocumentStore

open Store (Entry ownerField createdField isSystem)

/-! ## Writes of the store -/

namespace Store

/-- `write` puts in the place of a readable entry what `change` makes of it and of what is
stored of the payload, and gives that out. -/
structure Puts (write : Store → Key → String → Draft → Except Failure Record × Store)
    (change : Entry → Entry → Int → Entry) : Prop where
  foreign : ∀ (e changes : Entry) (now : Int), (change e changes now).foreign = changes.foreign
  write_eq : ∀ {s : Store} {name id : String} {e : Entry}, s.collections.entry name id = .ok e →
    e.foreign = none → ∀ payload : Draft.Members,
      write s name id (.object payload) =
        match Entry.ofPayload payload with
        | .error fault => (Entry.failDraft fault, s)
        | .ok changes =>
          let e' := change e changes s.clock.read.1
          (e'.read id, s.putEntry name id e' s.ids s.clock.read.2)

theorem puts_replace : Puts replace Entry.replace where
  foreign _ _ _ := rfl
  write_eq he _ payload := by
    cases hp : Entry.ofPayload payload <;> simp only [replace, Draft.members?, hp, he]

theorem puts_merge : Puts merge Entry.merge where
  foreign _ _ _ := rfl
  write_eq he hf payload := by
    cases hp : Entry.ofPayload payload <;> simp only [merge, Draft.members?, hp, he, hf]

theorem add_object (s : Store) (name : String) (payload : Draft.Members) :
    s.add name (.object payload) =
      match Entry.create payload with
      | .error fault => (Entry.failDraft fault, s)
      | .ok e =>
        let e' := e.put createdField (.int s.clock.read.1)
        (e'.read (s.nextId name).1, s.putEntry name (s.nextId name).1 e' (s.nextId name).2 s.clock.read.2) := by
  simp only [add, Draft.members?]
  rfl

end Store

/-! ## Changes -/

namespace Service

open Rule (Engine)

variable {engine : Engine} {s s' : Store} {call : Call} {v : Value}

theorem requireCollection_ok {name : String} (h : requireCollection call = .ok name) :
    call.collection = some name := by
  unfold requireCollection at h
  split at h
  · rename_i other ho
    split at h
    · cases h
    · cases h
      exact ho
  · cases h

/-- No collection has an empty name. -/
theorem requireCollection_nonempty {name : String} (h : requireCollection call = .ok name) :
    name.isEmpty = false := by
  unfold requireCollection at h
  split at h
  · split at h
    · cases h
    · rename_i hne
      cases h
      exact Bool.eq_false_iff.mpr hne
  · cases h

theorem requirePayload_ok {payload : Draft.Members} (h : requirePayload call = .ok payload) :
    call.body.members? = some payload := by
  unfold requirePayload at h
  split at h
  · cases h
    assumption
  · cases h

theorem target_ok {data : Collections} {name id : String} {record : Record}
    (h : target data call = .ok (name, id, record)) :
    call.collection = some name ∧ call.path = [id] ∧ data.getOne name id = .ok record := by
  unfold target at h
  split at h
  · cases h
  split at h
  · cases h
  rename_i id' hid
  split at h
  · cases h
  rename_i name' hname
  obtain ⟨record', hr, he⟩ := Result.map_eq_ok.mp h
  cases he
  refine ⟨requireCollection_ok hname, ?_, hr⟩
  unfold requireId at hid
  split at hid
  · rename_i i hp
    cases hid
    exact hp
  · cases hid

theorem copyable_eq_ok {payload passed : Draft.Members} (h : copyable payload = .ok passed) : passed = payload := by
  unfold copyable at h
  split at h
  · cases h
  · exact (Except.ok.inj h).symm

theorem prepareUpdate_passed {data : Collections} {name id : String} {passed : Draft.Members}
    (h : prepareUpdate engine data call = .ok (name, id, passed)) :
    ∃ record payload hidden, target data call = .ok (name, id, record) ∧ call.body.members? = some payload ∧
      engine.gate call.caller .update (some name) (some record) (some payload) = .ok hidden ∧
      passed = Engine.eraseAll hidden payload := by
  unfold prepareUpdate at h
  split at h
  · cases h
  rename_i name' id' record ht
  split at h
  · cases h
  rename_i payload hb
  split at h
  · cases h
  rename_i passed' hp
  obtain ⟨_, hcopy, he⟩ := Result.map_eq_ok.mp h
  cases he
  obtain ⟨hidden, hg, rfl⟩ := Result.map_eq_ok.mp hp
  exact ⟨record, payload, hidden, ht, requirePayload_ok hb, hg, copyable_eq_ok hcopy⟩

theorem prepareUpdate_ok {data : Collections} {name id : String} {passed : Draft.Members}
    (h : prepareUpdate engine data call = .ok (name, id, passed)) :
    ∃ record payload hidden, call.collection = some name ∧ call.path = [id] ∧
      call.body.members? = some payload ∧ data.getOne name id = .ok record ∧
      engine.gate call.caller .update (some name) (some record) (some payload) = .ok hidden ∧
      passed = Engine.eraseAll hidden payload := by
  obtain ⟨record, payload, hidden, ht, hb, hg, hpassed⟩ := prepareUpdate_passed h
  obtain ⟨hc, hpath, hr⟩ := target_ok ht
  exact ⟨record, payload, hidden, hc, hpath, hb, hr, hg, hpassed⟩

theorem prepareDelete_passed {data : Collections} {name id : String}
    (h : prepareDelete engine data call = .ok (name, id)) :
    ∃ record hidden, target data call = .ok (name, id, record) ∧
      engine.gate call.caller .delete (some name) (some record) none = .ok hidden := by
  unfold prepareDelete at h
  split at h
  · cases h
  · rename_i record ht
    obtain ⟨hidden, hg, he⟩ := Result.map_eq_ok.mp h
    cases he
    exact ⟨record, hidden, ht, hg⟩

theorem prepareCreate_passed {name : String} {passed : Draft.Members}
    (h : prepareCreate engine call = .ok (name, passed)) :
    ∃ payload hidden userId, requireCollection call = .ok name ∧ call.body.members? = some payload ∧
      engine.gate call.caller .create (some name) none (some payload) = .ok hidden ∧
      call.caller.userId = .ok userId ∧ passed = ownedBy userId (Engine.eraseAll hidden payload) := by
  unfold prepareCreate at h
  split at h
  · cases h
  split at h
  · cases h
  split at h
  · cases h
  rename_i hname
  split at h
  · cases h
  rename_i payload hb
  split at h
  · cases h
  rename_i hpass
  split at h
  · cases h
  rename_i userId huser
  obtain ⟨_, hcopy, he⟩ := Result.map_eq_ok.mp h
  cases he
  obtain ⟨hidden, hg, rfl⟩ := Result.map_eq_ok.mp hpass
  exact ⟨payload, hidden, userId, hname, requirePayload_ok hb, hg, huser, copyable_eq_ok hcopy⟩

theorem writeResult_ok {r : Except Failure Record × Store} (h : writeResult r = (.ok v, s')) :
    ∃ answer, r = (.ok answer, s') ∧ v = .object answer := by
  unfold writeResult at h
  split at h
  · cases h
    exact ⟨_, rfl, rfl⟩
  · cases h

section Changes

variable {write : Store → Key → String → Draft → Except Failure Record × Store}
  {change : Entry → Entry → Int → Entry}

/-- A change that is not refused: the record it is about, the fields hidden from the caller,
what is stored of the payload, and the entry that it puts into the store and answers. -/
theorem update_ok (hw : Store.Puts write change) (h : update engine write s call = (.ok v, s')) :
    ∃ name id payload hidden e record changes answer,
      call.collection = some name ∧ call.path = [id] ∧ call.body.members? = some payload ∧
      s.collections.entry name id = .ok e ∧ e.read id = .ok record ∧
      engine.gate call.caller .update (some name) (some record) (some payload) = .ok hidden ∧
      Entry.ofPayload (Engine.eraseAll hidden payload) = .ok changes ∧ v = .object answer ∧
      (let e' := change e changes s.clock.read.1
       e'.read id = .ok answer ∧ s' = s.putEntry name id e' s.ids s.clock.read.2) := by
  unfold update at h
  split at h
  · cases h
  rename_i name id passed hp
  obtain ⟨record, payload, hidden, hc, hpath, hb, hr, hg, rfl⟩ := prepareUpdate_ok hp
  obtain ⟨e, he, hread⟩ := Collections.getOne_eq_ok hr
  obtain ⟨answer, hout, rfl⟩ := writeResult_ok h
  rw [hw.write_eq he (Entry.read_eq_ok hread).1] at hout
  split at hout
  · cases hout
  · rename_i changes hchanges
    obtain ⟨hanswer, hs⟩ := Prod.ext_iff.mp hout
    exact ⟨name, id, payload, hidden, e, record, changes, answer, hc, hpath, hb, he, hread, hg, hchanges,
      rfl, hanswer, hs.symm⟩

/-- A refused change leaves the store as it was, if its body is JSON: then the store takes
whatever passes the check. -/
theorem update_error (hw : Store.Puts write change) {ms : Record} {f : Failure}
    (hb : call.body = .object (Draft.ofMembers ms)) (h : update engine write s call = (.error f, s')) :
    s' = s := by
  unfold update at h
  split at h
  · cases h
    rfl
  rename_i name id passed hp
  obtain ⟨record, payload, hidden, -, -, hpayload, hr, -, rfl⟩ := prepareUpdate_ok hp
  obtain ⟨e, he, hread⟩ := Collections.getOne_eq_ok hr
  rw [hb] at hpayload
  cases hpayload
  rw [Engine.eraseAll_ofMembers, hw.write_eq he (Entry.read_eq_ok hread).1, Entry.ofPayload_ofMembers] at h
  simp only [] at h
  rw [Entry.read_of_foreign (hw.foreign ..)] at h
  cases h

end Changes

theorem dispatch_get {users : Collections} {method : String} (hm : Method.ofText? method = some .get)
    (call : Call) : dispatch engine users s method call = (get engine s.collections users call, s) := by
  simp only [dispatch, hm]

theorem dispatch_patch {users : Collections} {method : String} (hm : Method.ofText? method = some .patch)
    (call : Call) : dispatch engine users s method call = update engine Store.merge s call := by
  simp only [dispatch, hm]

theorem dispatch_put {users : Collections} {method : String} (hm : Method.ofText? method = some .put)
    (call : Call) : dispatch engine users s method call = update engine Store.replace s call := by
  simp only [dispatch, hm]

theorem dispatch_post {users : Collections} {method : String} (hm : Method.ofText? method = some .post)
    (call : Call) : dispatch engine users s method call = post engine s call := by
  simp only [dispatch, hm]

theorem dispatch_delete {users : Collections} {method : String} (hm : Method.ofText? method = some .delete)
    (call : Call) : dispatch engine users s method call = delete engine s call := by
  simp only [dispatch, hm]

/-! ## Creations -/

/-- But for the owner, a payload made the caller's own has nothing that did not stand in it. -/
theorem mem_ownedBy {userId : Option String} {payload : Draft.Members} {field : String} {draft : Draft}
    (hf : isSystem field = false) (h : (.text field, draft) ∈ ownedBy userId payload) :
    (.text field, draft) ∈ payload := by
  have hne : field ≠ ownerField := Store.ne_of_isSystem Store.isSystem_ownerField hf
  unfold ownedBy at h
  simp only at h
  split at h
  · rcases Keyed.mem_put h with hm | heq | hbeq
    · exact (Keyed.mem_erase.mp hm).1
    · exact absurd (Key.text.inj heq) hne
    · rw [Key.text_beq_text] at hbeq
      exact absurd (eq_of_beq hbeq) hne
  · exact (Keyed.mem_erase.mp h).1

/-- A creation that is not refused: the fields hidden from the caller, the new entry, and how
it is put into the store under a new id and answered. -/
theorem post_ok (h : post engine s call = (.ok v, s')) :
    ∃ name payload hidden userId e answer, call.collection = some name ∧ call.body.members? = some payload ∧
      engine.gate call.caller .create (some name) none (some payload) = .ok hidden ∧
      call.caller.userId = .ok userId ∧
      Entry.create (ownedBy userId (Engine.eraseAll hidden payload)) = .ok e ∧ v = .object answer ∧
      (let e' := e.put createdField (.int s.clock.read.1)
       e'.read (s.nextId name).1 = .ok answer ∧
         s' = s.putEntry name (s.nextId name).1 e' (s.nextId name).2 s.clock.read.2) := by
  unfold post at h
  split at h
  · cases h
  rename_i name passed hp
  obtain ⟨payload, hidden, userId, hname, hb, hg, huser, rfl⟩ := prepareCreate_passed hp
  obtain ⟨answer, hout, rfl⟩ := writeResult_ok h
  rw [Store.add_object] at hout
  split at hout
  · cases hout
  · rename_i e hcreate
    obtain ⟨hanswer, hs⟩ := Prod.ext_iff.mp hout
    exact ⟨name, payload, hidden, userId, e, answer, requireCollection_ok hname, hb, hg, huser, hcreate,
      rfl, hanswer, hs.symm⟩

/-! ## Deletions -/

theorem delete_ok (h : delete engine s call = (.ok v, s')) :
    ∃ name id e record, call.collection = some name ∧ call.path = [id] ∧
      s.collections.stored? name id = some e ∧ e.read id = .ok record ∧
      s'.collections = s.collections.put (.text name) ((s.collections.named name).erase id) := by
  unfold delete at h
  split at h
  · cases h
  rename_i name id hp
  obtain ⟨record, hidden, ht, -⟩ := prepareDelete_passed hp
  obtain ⟨hc, hpath, hr⟩ := target_ok ht
  obtain ⟨e, he, hread⟩ := Collections.getOne_eq_ok hr
  simp only [Store.delete, he] at h
  cases h
  exact ⟨name, id, e, record, hc, hpath, Collections.entry_eq_ok_iff.mp he, hread, rfl⟩

end Service

end DocumentStore
