/-
  DocumentStore.Proofs.Effect — the exact effect of a write.

  A call that writes and is not refused changes one entry of one collection (`DiffersIn`). The other
  collections and entries stay, and all in their order; only a new collection and a new entry come
  last. What becomes of the entry is its method's `Effect`:
  - a creation puts what the caller may set, the caller as owner and the time under a new id;
  - a merge puts what the caller may set over what is there, a replacement in its place, but for
    the store's own fields, and both stamp the time of the change;
  - a deletion takes the entry out.
  What the caller may set (`taken`) are the fields of the body that are not the store's own and whose
  rule does not deny.
-/

import DocumentStore.Proofs.Dispatch
import DocumentStore.Proofs.OwnersOnly
import DocumentStore.Proofs.PlainRules
import DocumentStore.Proofs.SystemFields
import DocumentStore.Proofs.WritePolicy

namespace DocumentStore

open Store (Entry idField ownerField createdField updatedField isSystem)

/-! ## One collection -/

namespace Collections

def Distinct (cs : Collections) : Prop := ∀ f ∈ cs, (Keyed.names f.2).Nodup

/-- Both are the same but for the collection of a name, which is `c` in the one and `c'` in the
other. Where there was none, it is put last. -/
inductive DiffersIn (name : String) : Collection → Collection → Collections → Collections → Prop
  | inPlace {before after : Collections} {c c' : Collection} (hfirst : before.get? name = none) :
      DiffersIn name c c' (before ++ (.text name, c) :: after) (before ++ (.text name, c') :: after)
  | last {cs : Collections} {c' : Collection} (hnone : cs.get? name = none) :
      DiffersIn name [] c' cs (cs ++ [(.text name, c')])

theorem differsIn_put (cs : Collections) (name : String) (c' : Collection) :
    DiffersIn name (cs.named name) c' cs (cs.put (.text name) c') := by
  unfold named
  cases hc : cs.get? (.text name) with
  | none =>
    rw [Keyed.put_of_get?_none hc]
    exact .last hc
  | some c =>
    obtain ⟨before, after, rfl, hbefore, hput⟩ := Keyed.exists_put (fun _ => Key.eq_of_beq_text) hc
    rw [hput]
    exact .inPlace (Keyed.get?_eq_none_of_forall hbefore)

theorem DiffersIn.distinct {name : String} {c c' : Collection} {cs cs' : Collections}
    (h : DiffersIn name c c' cs cs') (hcs : cs.Distinct) (hc : c.names.Nodup → c'.names.Nodup) : cs'.Distinct := by
  cases h with
  | @inPlace before after c _ _ =>
    obtain ⟨hbefore, hrest⟩ := List.forall_mem_append.mp hcs
    obtain ⟨hthere, hafter⟩ := List.forall_mem_cons.mp hrest
    exact List.forall_mem_append.mpr ⟨hbefore, List.forall_mem_cons.mpr ⟨hc hthere, hafter⟩⟩
  | last => exact List.forall_mem_append.mpr ⟨hcs, List.forall_mem_singleton.mpr (hc List.nodup_nil)⟩

theorem named_distinct {cs : Collections} (h : cs.Distinct) (name : Key) : (cs.named name).names.Nodup := by
  unfold named
  cases hc : cs.get? name with
  | none => exact List.nodup_nil
  | some c => exact Keyed.forall_of_get? (P := fun c : Collection => (Keyed.names c).Nodup) h hc

theorem seedInto_distinct {c c' : Collection} {records : Draft.Members} (hc : c.names.Nodup)
    (h : seedInto c records = .ok c') : c'.names.Nodup := by
  induction records generalizing c with
  | nil =>
    cases h
    exact hc
  | cons r rest ih =>
    unfold seedInto at h
    split at h
    · cases h
    split at h
    · cases h
    · exact ih (Keyed.nodup_names_put hc _ _) h

theorem seedAll_distinct {members : Draft.Members} {cs : Collections} (h : seedAll members = .ok cs) :
    cs.Distinct := by
  induction members generalizing cs with
  | nil =>
    cases h
    exact fun f hf => absurd hf List.not_mem_nil
  | cons m rest ih =>
    unfold seedAll at h
    split at h
    · cases h
    · rename_i c hc
      obtain ⟨others, ho, rfl⟩ := Result.map_eq_ok.mp h
      exact List.forall_mem_cons.mpr ⟨seedInto_distinct (c := []) List.nodup_nil hc, ih ho⟩

/-- Whatever a seed describes, no collection of it has an id twice. -/
theorem distinct_ofSeed {seed : Draft} {cs : Collections} (h : ofSeed seed = .ok cs) : cs.Distinct :=
  seedAll_distinct h

end Collections

namespace Service

open Rule (Engine Action)

/-! ## One entry -/

/-- The fields of a body that a write stores: not the store's own, and none whose rule denies. -/
def taken (engine : Engine) (caller : Caller) (action : Action) (name : String) (data : Option Record)
    (body : Record) : Record :=
  body.drop fun field =>
    isSystem field || engine.denied caller action (some name) data (some (Draft.ofMembers body)) field

def ownerOfNew (userId : Option String) : Record := userId.elim [] fun id => [(ownerField, .text id)]

structure Stamps (s : Store) (old : Record) (stamp : Int) : Prop where
  reading : s.clock.read.1 ≤ stamp
  later : ∀ last, old.get? updatedField = some (.int last) → last < stamp

inductive Effect (engine : Engine) (s : Store) (call : Call) (name : String) (body : Record) :
    Method → Collection → Collection → Prop
  | created {c : Collection} {id : String} {userId : Option String} (hid : id ∉ c.names)
      (huser : call.caller.userId = .ok userId) :
      Effect engine s call name body .post c (c ++ [(id, .ofRecord (ownerOfNew userId ++
        taken engine call.caller .create name none body ++ [(createdField, .int s.clock.read.1)]))])
  | merged {before after : Collection} {id : String} {old : Record} {stamp : Int} (hpath : call.path = [id])
      (hstamp : Stamps s old stamp) :
      Effect engine s call name body .patch (before ++ (id, .ofRecord old) :: after)
        (before ++ (id, .ofRecord (Keyed.put (old.overlay
          (taken engine call.caller .update name (some (old.put idField (.text id))) body))
            updatedField (.int stamp))) :: after)
  | replaced {before after : Collection} {id : String} {old : Record} {stamp : Int} (hpath : call.path = [id])
      (hstamp : Stamps s old stamp) :
      Effect engine s call name body .put (before ++ (id, .ofRecord old) :: after)
        (before ++ (id, .ofRecord (Keyed.put
          (taken engine call.caller .update name (some (old.put idField (.text id))) body ++ Entry.systemPart old)
            updatedField (.int stamp))) :: after)
  | deleted {before after : Collection} {id : String} {old : Record} (hpath : call.path = [id]) :
      Effect engine s call name body .delete (before ++ (id, .ofRecord old) :: after) (before ++ after)

section Effects

variable {engine : Engine} {s s' : Store} {call : Call} {name id : String} {body : Record} {v : Value}

theorem Effect.names_nodup {m : Method} {c c' : Collection} (h : Effect engine s call name body m c c')
    (hc : c.names.Nodup) : c'.names.Nodup := by
  cases h with
  | created hid =>
    simp only [Keyed.names, List.map_append, List.map_cons, List.map_nil]
    exact List.nodup_append.mpr ⟨hc, List.nodup_singleton _, fun a ha b hb e => hid (List.mem_singleton.mp hb ▸ e ▸ ha)⟩
  | merged => simpa only [Keyed.names, List.map_append, List.map_cons] using hc
  | replaced => simpa only [Keyed.names, List.map_append, List.map_cons] using hc
  | deleted =>
    have hsub : ∀ (before : Collection) (f : String × Entry) (after : Collection),
        (Keyed.names (before ++ after)).Sublist (Keyed.names (before ++ f :: after)) := fun before f after =>
      List.Sublist.map _ ((List.sublist_cons_self f after).append_left before)
    exact hc.sublist (hsub _ _ _)

/-- What is left of a body that passed, without the store's own fields, is what is taken of it. -/
theorem taken_of_gate {action : Action} {data : Option Record} {hidden : List String}
    (hg : engine.gate call.caller action (some name) data (some (Draft.ofMembers body)) = .ok hidden) :
    (Engine.redact hidden body).drop isSystem = taken engine call.caller action name data body := by
  rw [Engine.redact_eq_drop, Keyed.drop, Keyed.drop, List.filter_filter, taken, Keyed.drop]
  refine List.filter_congr fun f _ => ?_
  have hdenied : hidden.contains f.1 =
      engine.denied call.caller action (some name) data (some (Draft.ofMembers body)) f.1 := by
    rw [Bool.eq_iff_iff, List.contains_iff_mem]
    exact Engine.mem_hidden hg f.1
  rw [hdenied, Bool.not_or]

theorem stamps_changeStamp (s : Store) (old : Record) : Stamps s old (Entry.changeStamp old s.clock.read.1) where
  reading := by
    unfold Entry.changeStamp
    split
    · split <;> omega
    · exact le_refl _
  later _ hlast := Entry.lt_changeStamp hlast _

/-- A new entry of a JSON body: the caller as owner, then what is stored of the body. -/
theorem create_ownedBy (userId : Option String) (ms : Record) :
    Entry.create (ownedBy userId (Draft.ofMembers ms)) = .ok (.ofRecord (ownerOfNew userId ++ ms.drop isSystem)) := by
  have hstored : Entry.ofPayload (ownedBy userId (Draft.ofMembers ms)) = .ok (.ofRecord (ms.drop isSystem)) := by
    have hown : ∀ field, (field == ownerField) = true → isSystem field = true := fun field hf =>
      (eq_of_beq hf).symm ▸ Store.isSystem_ownerField
    have herase : Keyed.drop isSystem (ms.erase ownerField) = ms.drop isSystem := Keyed.drop_drop hown ms
    unfold ownedBy
    dsimp only
    rw [Draft.ofMembers_erase]
    cases userId with
    | none => exact (Entry.ofPayload_ofMembers _).trans (by rw [herase])
    | some id =>
      have hput : Keyed.put (Draft.ofMembers (ms.erase ownerField)) ownerField (.text id) =
          Draft.ofMembers ((ms.erase ownerField).put ownerField (.text id)) := Draft.ofMembers_put _ _ (.text id)
      dsimp only
      rw [hput, Entry.ofPayload_ofMembers, Keyed.drop_put, if_pos Store.isSystem_ownerField, herase]
  rw [Entry.create, ownerOf_ownedBy, hstored]
  rfl

/-- The time of creation comes behind what a new entry holds. -/
theorem put_created (userId : Option String) (ms : Record) (now : Int) :
    Entry.put (.ofRecord (ownerOfNew userId ++ ms.drop isSystem)) createdField (.int now) =
      .ofRecord (ownerOfNew userId ++ ms.drop isSystem ++ [(createdField, .int now)]) := by
  have hcreate := Entry.get?_create_own (create_ownedBy userId ms) Store.isSystem_createdField (by decide)
  exact congrArg Entry.ofRecord (Keyed.put_of_get?_none hcreate _)

theorem post_effect (hbody : call.body = .ofValue (.object body)) (h : post engine s call = (.ok v, s')) :
    ∃ name c c', call.collection = some name ∧ Collections.DiffersIn name c c' s.collections s'.collections ∧
      Effect engine s call name body .post c c' := by
  obtain ⟨name, payload, hidden, userId, e, answer, hc, hpayload, hg, huser, hcreate, -, -, rfl⟩ := post_ok h
  rw [hbody] at hpayload
  cases hpayload
  refine ⟨name, _, _, hc, Collections.differsIn_put _ _ _, ?_⟩
  have hfresh : Keyed.get? (s.collections.named name) (s.nextId name).1 = none := Store.stored?_nextId s name
  rw [Engine.eraseAll_ofMembers, create_ownedBy] at hcreate
  cases hcreate
  rw [put_created, taken_of_gate hg]
  show Effect engine s call name body .post (s.collections.named name) (Keyed.put (s.collections.named name) _ _)
  rw [Keyed.put_of_get?_none hfresh]
  exact .created (Keyed.get?_eq_none_iff.mp hfresh) huser

/-- A change puts in the place of an entry what it makes of that and of what is taken of the body. -/
theorem update_effect {write : Store → Key → String → Draft → Except Failure Record × Store}
    {change : Entry → Entry → Int → Entry} (hw : Store.Puts write change)
    (hbody : call.body = .ofValue (.object body)) (h : update engine write s call = (.ok v, s')) :
    ∃ name id old before after, call.collection = some name ∧ call.path = [id] ∧
      Collections.DiffersIn name (before ++ (id, .ofRecord old) :: after)
        (before ++ (id, change (.ofRecord old) (.ofRecord
          (taken engine call.caller .update name (some (old.put idField (.text id))) body)) s.clock.read.1) :: after)
        s.collections s'.collections := by
  obtain ⟨name, id, payload, hidden, e, record, changes, answer, hc, hpath, hpayload, he, hread, hg, hchanges,
    -, -, rfl⟩ := update_ok hw h
  rw [hbody] at hpayload
  cases hpayload
  obtain ⟨old, foreign⟩ := e
  obtain ⟨rfl, rfl⟩ := Entry.read_eq_ok hread
  rw [Engine.eraseAll_ofMembers, Entry.ofPayload_ofMembers, taken_of_gate hg] at hchanges
  cases hchanges
  obtain ⟨before, after, hbefore, -, hput⟩ :=
    Keyed.exists_put (fun _ => eq_of_beq) (Collections.entry_eq_ok_iff.mp he)
  refine ⟨name, id, old, before, after, hc, hpath, ?_⟩
  show Collections.DiffersIn name _ _ s.collections
    (s.collections.put (.text name) (Keyed.put (s.collections.named name) id _))
  rw [hput]
  have hdiffers := Collections.differsIn_put s.collections name
    (before ++ (id, change (.ofRecord old) (.ofRecord
      (taken engine call.caller .update name (some (old.put idField (.text id))) body)) s.clock.read.1) :: after)
  rw [hbefore] at hdiffers
  exact hdiffers

theorem delete_effect (hdistinct : s.collections.Distinct) (body : Record) (h : delete engine s call = (.ok v, s')) :
    ∃ name c c', call.collection = some name ∧ Collections.DiffersIn name c c' s.collections s'.collections ∧
      Effect engine s call name body .delete c c' := by
  obtain ⟨name, id, e, record, hc, hpath, he, hread, hs⟩ := delete_ok h
  obtain ⟨old, foreign⟩ := e
  obtain ⟨rfl, -⟩ := Entry.read_eq_ok hread
  obtain ⟨before, after, hbefore, -, -, -, herase⟩ := Keyed.exists_split (Collections.named_distinct hdistinct name) he
  refine ⟨name, s.collections.named name, (s.collections.named name).erase id, hc, ?_, ?_⟩
  · rw [hs]
    exact Collections.differsIn_put _ _ _
  · rw [herase, hbefore]
    exact .deleted hpath

theorem dispatch_effect {users : Collections} {method : String} {m : Method} (hdistinct : s.collections.Distinct)
    (hm : Method.ofText? method = some m) (hwrite : m ≠ .get) (hbody : call.body = .ofValue (.object body))
    (h : dispatch engine users s method call = (.ok v, s')) :
    ∃ name c c', call.collection = some name ∧ Collections.DiffersIn name c c' s.collections s'.collections ∧
      Effect engine s call name body m c c' := by
  cases m with
  | get => exact absurd rfl hwrite
  | post =>
    rw [dispatch_post hm] at h
    exact post_effect hbody h
  | put =>
    rw [dispatch_put hm] at h
    obtain ⟨name, id, old, before, after, hc, hpath, hdiffers⟩ := update_effect Store.puts_replace hbody h
    exact ⟨name, _, _, hc, hdiffers, .replaced hpath (stamps_changeStamp s old)⟩
  | patch =>
    rw [dispatch_patch hm] at h
    obtain ⟨name, id, old, before, after, hc, hpath, hdiffers⟩ := update_effect Store.puts_merge hbody h
    exact ⟨name, _, _, hc, hdiffers, .merged hpath (stamps_changeStamp s old)⟩
  | delete =>
    rw [dispatch_delete hm] at h
    exact delete_effect hdistinct body h

/-- A write that is not refused changes one entry of one collection, as its method's effect says,
and nothing else; so no collection has an id twice after it either. -/
theorem write_changes_one_entry {users : Collections} {method : String} {m : Method}
    (hdistinct : s.collections.Distinct) (hm : Method.ofText? method = some m) (hwrite : m ≠ .get)
    (hbody : call.body = .ofValue (.object body)) (h : dispatch engine users s method call = (.ok v, s')) :
    s'.collections ≠ s.collections ∧ s'.collections.Distinct ∧
      ∃ name c c', call.collection = some name ∧ Collections.DiffersIn name c c' s.collections s'.collections ∧
        Effect engine s call name body m c c' := by
  obtain ⟨name, c, c', hc, hdiffers, heffect⟩ := dispatch_effect hdistinct hm hwrite hbody h
  refine ⟨fun heq => ?_, hdiffers.distinct hdistinct heffect.names_nodup, name, c, c', hc, hdiffers, heffect⟩
  have hget := (dispatch_ok_keeps_iff (congrArg Prod.fst h)).mp (by rw [h]; exact heq)
  exact hwrite (Option.some.inj (hm.symm.trans hget))

end Effects

/-! ### A creation that asks for too much -/

def openBooks : Rule.Document :=
  .object [("books", .object [("*", .object
    [("rating", .object [(".create", .bool false)]), ("_ownerId", .object [(".create", .bool false)])])])]

def openEngine : Engine :=
  ⟨.builtIn, none, Rule.builtInDefaults,
    [(.text "books", ⟨[], [("rating", [(".create", .deny)]), ("_ownerId", [(".create", .deny)])], []⟩)]⟩

def ownedStore : Store := ⟨Store.ownedBooks, .numbered ["b2"], .ofReadings 1000 []⟩

def forgedBook : Record := [("title", .text "Emma"), ("rating", .int 5), ("_ownerId", .text "u2"), ("_createdOn", .int 0)]

def addForged : Call := ⟨clerk, some "books", [], [], .ofValue (.object forgedBook)⟩

def addedBook : Record := [("_ownerId", .text "u1"), ("title", .text "Emma"), ("_createdOn", .int 1000)]

/-- The clerk's book is added behind those there are, with what the clerk may set. -/
theorem write_changes_one_entry_added :
    Engine.ofDocument .builtIn none openBooks = .ok openEngine ∧ ownedStore.collections.Distinct ∧
      Method.ofText? "POST" = some .post ∧ addForged.body = .ofValue (.object forgedBook) ∧
      (dispatch openEngine [] ownedStore "POST" addForged).1 = .ok (.object (addedBook ++ [("_id", .text "b2")])) ∧
      ∃ c id, id ∉ Keyed.names c ∧ Collections.DiffersIn "books" c (c ++ [(id, .ofRecord addedBook)])
        ownedStore.collections (dispatch openEngine [] ownedStore "POST" addForged).2.collections := by
  have hdistinct : ownedStore.collections.Distinct :=
    Collections.distinct_ofSeed (show Collections.ofSeed Store.ownedSeed = .ok Store.ownedBooks from rfl)
  have hm : Method.ofText? "POST" = some .post := by decide
  have hanswer : (dispatch openEngine [] ownedStore "POST" addForged).1 =
      .ok (.object (addedBook ++ [("_id", .text "b2")])) := by cbv
  have htaken : taken openEngine clerk .create "books" none forgedBook = [("title", .text "Emma")] := by cbv
  obtain ⟨-, -, name, c, c', hc, hdiffers, heffect⟩ :=
    write_changes_one_entry hdistinct hm (by decide) rfl (Prod.ext hanswer rfl)
  cases hc
  refine ⟨rfl, hdistinct, hm, rfl, hanswer, c, ?_⟩
  cases heffect with
  | @created _ id userId hid huser =>
    cases huser
    rw [show addForged.caller = clerk from rfl, htaken] at hdiffers
    exact ⟨id, hid, hdiffers⟩

end Service

end DocumentStore
