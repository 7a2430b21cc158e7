/-
  DocumentStore.Proofs.SystemFields — the store's own fields through the life of a record.

  A store that was seeded with JSON and is given JSON stays `Sound`: every entry can be read,
  and the time of its last change is a whole number if it has one (`sound_after`). As long as
  a record is not deleted it is there, with the owner and the time of creation that it had
  (`entry_kept_after`), whatever fields of these names the payloads bring. Every read shows a record
  under its id, and every change makes the time of the last change a later one, whatever the
  clock says (`system_fields_tamper_proof`).
-/

import DocumentStore.Proofs.Operations

namespace DocumentStore

open Store (Entry Operation Installs Run IdSource Clock idField ownerField createdField updatedField)

/-! ## Sound stores -/

/-- The time of the last change is a whole number, if there is one. -/
def Record.Stamped (record : Record) : Prop :=
  ∀ v, record.get? updatedField = some v → ∃ last : Int, v = .int last

structure Store.Entry.Sound (e : Entry) : Prop where
  readable : e.foreign = none
  stamped : e.record.Stamped

def Collections.Sound (cs : Collections) : Prop := ∀ c ∈ cs, ∀ f ∈ c.2, f.2.Sound

namespace Store

def Operation.IsJson : Operation → Prop
  | .add _ payload => ∃ body : Record, payload = .ofValue (.object body)
  | .replace _ _ payload => ∃ body : Record, payload = .ofValue (.object body)
  | .merge _ _ payload => ∃ body : Record, payload = .ofValue (.object body)
  | .delete _ _ => True

theorem Entry.ofRecord_sound {record : Record} (h : record.Stamped) : (Entry.ofRecord record).Sound := ⟨rfl, h⟩

theorem Entry.put_updated_sound {e : Entry} (hf : e.foreign = none) (n : Int) :
    (e.put updatedField (.int n)).Sound where
  readable := hf
  stamped v hv := by
    rw [Entry.get?_put_self] at hv
    exact ⟨n, (Option.some.inj hv).symm⟩

/-- What an operation makes of a JSON object can be read. -/
theorem Installs.readable {s : Store} {op : Operation} {id : String} {e : Entry} (hj : op.IsJson)
    (h : Installs s op id e) : e.foreign = none := by
  cases h with
  | add hp hc =>
    obtain ⟨body, rfl⟩ := hj
    obtain ⟨_, ⟨⟩, rfl⟩ := Draft.members?_ofValue hp
    obtain ⟨record, hcreate⟩ := Entry.create_ofMembers body
    cases hc.symm.trans hcreate
    rfl
  | replace hp hc he =>
    obtain ⟨body, rfl⟩ := hj
    obtain ⟨_, ⟨⟩, rfl⟩ := Draft.members?_ofValue hp
    cases (Entry.ofPayload_ofMembers body).symm.trans hc
    rfl
  | merge hp hc he hf =>
    obtain ⟨body, rfl⟩ := hj
    obtain ⟨_, ⟨⟩, rfl⟩ := Draft.members?_ofValue hp
    cases (Entry.ofPayload_ofMembers body).symm.trans hc
    rfl

/-- What an operation makes of a JSON object is sound. -/
theorem Installs.sound {s : Store} {op : Operation} {id : String} {e : Entry} (hj : op.IsJson)
    (h : Installs s op id e) : e.Sound := by
  have hf := h.readable hj
  cases h with
  | add hp hc =>
    refine ⟨hf, fun v hv => ?_⟩
    rw [Entry.put, Keyed.get?_put_of_ne _ (by decide),
      Entry.get?_create_own hc Store.isSystem_updatedField (by decide)] at hv
    cases hv
  | replace =>
    refine Entry.put_updated_sound ?_ _
    exact hf
  | merge =>
    refine Entry.put_updated_sound ?_ _
    exact hf

theorem sound_after {s : Store} {ops : List Operation} (hs : s.collections.Sound)
    (hj : ∀ op ∈ ops, op.IsJson) : (s.after ops).collections.Sound :=
  after_each (P := Entry.Sound) hs fun op ho => Installs.sound (hj op ho)

end Store

/-! ## Seeds -/

def Draft.SeedsStamped (seed : Draft) : Prop :=
  ∀ c ∈ seed.members?.getD [], ∀ r ∈ c.2.members?.getD [], ∀ record : Record,
    r.2.checkRecord = .ok record → record.Stamped

theorem Collections.sound_ofSeed {seed : Draft} {cs : Collections} (hs : seed.SeedsStamped)
    (h : ofSeed seed = .ok cs) : cs.Sound :=
  each_ofSeed (P := Entry.Sound)
    (fun c hc r hr record hrecord => Entry.ofRecord_sound (hs c hc r hr record hrecord)) h

namespace Store

/-! ## Reads and changes -/

theorem readEntries_of_readable {c : Collection} (h : ∀ f ∈ c, f.2.foreign = none) :
    Collections.readEntries c = .ok (c.map fun f => f.2.record.put idField (.text f.1)) := by
  induction c with
  | nil => rfl
  | cons f rest ih =>
    obtain ⟨id, e⟩ := f
    have he : e.read id = .ok (e.record.put idField (.text id)) :=
      Entry.read_of_foreign (h (id, e) List.mem_cons_self) id
    rw [Collections.readEntries, he, ih fun g hg => h g (List.mem_cons_of_mem _ hg)]
    rfl

/-- Entries that are sound are read each under its id. -/
theorem ids_of_readEntries {c : Collection} (h : ∀ f ∈ c, f.2.Sound) :
    ∃ records, Collections.readEntries c = .ok records ∧
      records.map (fun r => Keyed.get? r idField) = c.map fun f => some (.text f.1) := by
  refine ⟨_, readEntries_of_readable fun f hf => (h f hf).readable, ?_⟩
  rw [List.map_map]
  exact List.map_congr_left fun f _ => Keyed.get?_put_self _ (beq_self_eq_true idField) _

/-- What a change that is not refused answers: the record as it is stored now, the time of its
last change being later than it was. -/
theorem change_stamps {s : Store} {op : Operation} {name id : String} {payload : Draft} {answer : Record}
    (hs : s.collections.Sound) (hop : op = .replace name id payload ∨ op = .merge name id payload)
    (h : (op.run s).1 = .ok answer) :
    ∃ before stamp, s.collections.getOne name id = .ok before ∧
      (op.run s).2.collections.getOne name id = .ok answer ∧
      answer.get? updatedField = some (.int stamp) ∧
      ∀ v, before.get? updatedField = some v → ∃ last, v = .int last ∧ last < stamp := by
  have hrun := run_spec s op
  generalize op.run s = out at h hrun
  -- A replacement and a merge differ in the entry that they make, but not in how it is stamped.
  have hstamps : ∀ {e e' : Entry} (ids : IdSource), s.collections.stored? name id = some e →
      e'.record.get? updatedField = some (.int (Entry.changeStamp e.record s.clock.read.1)) →
      e'.read id = .ok answer → ∃ before stamp, s.collections.getOne name id = .ok before ∧
        (s.putEntry name id e' ids s.clock.read.2).collections.getOne name id = .ok answer ∧
        answer.get? updatedField = some (.int stamp) ∧
        ∀ v, before.get? updatedField = some v → ∃ last, v = .int last ∧ last < stamp := by
    intro e e' ids he hstamp hread
    have hsound : e.Sound := Keyed.forall_of_get? (Collections.Each.named (P := Entry.Sound) hs name) he
    have hbefore := Entry.read_of_foreign hsound.readable id
    refine ⟨_, _, (Collections.getOne_of_entry (Collections.entry_eq_ok_iff.mpr he)).trans hbefore,
      (Collections.getOne_of_entry (Collections.entry_putEntry ..)).trans hread,
      (Entry.get?_read_of_ne hread (by decide)).trans hstamp, fun v hv => ?_⟩
    rw [Entry.get?_read_of_ne hbefore (by decide)] at hv
    obtain ⟨last, rfl⟩ := hsound.stamped v hv
    exact ⟨last, rfl, Entry.lt_changeStamp hv _⟩
  cases hrun with
  | refused => cases h
  | installed hi ids =>
    rcases hop with rfl | rfl
    · cases hi with
      | replace hp hc he => exact hstamps ids he (Entry.get?_put_self ..) h
    · cases hi with
      | merge hp hc he hf => exact hstamps ids he (Entry.get?_put_self ..) h
  | removed => rcases hop with h | h <;> cases h

/-- What a store promises of its own fields, now and for as long as it is given JSON. -/
structure TamperProof (s : Store) : Prop where
  /-- A record is there until it is deleted, with the owner and the time of creation it has. -/
  kept : ∀ {name id : String} {record : Record}, s.collections.getOne name id = .ok record →
    ∀ {future : List Operation}, (∀ op ∈ future, op.IsJson) → .delete name id ∉ future →
      ∃ record', (s.after future).collections.getOne name id = .ok record' ∧
        record'.get? ownerField = record.get? ownerField ∧
        record'.get? createdField = record.get? createdField
  /-- What is there can be read, one by one and together, and is shown under its id. -/
  one : ∀ {name : Key} {id : String} {e : Entry}, s.collections.stored? name id = some e →
    ∃ record, s.collections.getOne name id = .ok record ∧ record.get? idField = some (.text id)
  all : ∀ {name : Key} {c : Collection}, s.collections.get? name = some c →
    ∃ records, s.collections.getAll name = .ok records ∧
      records.map (fun r => Keyed.get? r idField) = c.map fun f => some (.text f.1)
  found : ∀ {name : Key} {c : Collection}, s.collections.get? name = some c → ∀ equals : Record,
    ∃ records, s.collections.findExact name equals = .ok records ∧
      records.map (fun r => Keyed.get? r idField) =
        (c.filter fun f => Collections.meetsAll equals f.1 f.2).map fun f => some (.text f.1)
  /-- A change that goes through gives the record a time later than that of its last change. -/
  later : ∀ {name id : String} {payload : Draft} {op : Operation} {answer : Record},
    op = .replace name id payload ∨ op = .merge name id payload → (op.run s).1 = .ok answer →
      ∃ before stamp, s.collections.getOne name id = .ok before ∧
        (op.run s).2.collections.getOne name id = .ok answer ∧
        answer.get? updatedField = some (.int stamp) ∧
        ∀ v, before.get? updatedField = some v → ∃ last, v = .int last ∧ last < stamp

theorem getOne_of_sound {s : Store} (hs : s.collections.Sound) {name : Key} {id : String} {e : Entry}
    (he : s.collections.stored? name id = some e) :
    s.collections.getOne name id = .ok (e.record.put idField (.text id)) := by
  have hsound : e.Sound := Keyed.forall_of_get? (Collections.Each.named (P := Entry.Sound) hs name) he
  rw [Collections.getOne_of_entry (Collections.entry_eq_ok_iff.mpr he),
    Entry.read_of_foreign hsound.readable]

theorem tamperProof_of_sound {s : Store} (hs : s.collections.Sound) : s.TamperProof where
  kept := by
    intro name id record hr future hj hdel
    obtain ⟨e, he, hread⟩ := Collections.getOne_eq_ok hr
    obtain ⟨e', he', hown⟩ := entry_kept_after (Collections.entry_eq_ok_iff.mp he) hdel
    have hread' := getOne_of_sound (sound_after hs hj) he'
    refine ⟨_, hread', ?_, ?_⟩
    · rw [Keyed.get?_put_of_ne _ (by decide), Entry.get?_read_of_ne hread (by decide),
        hown ownerField isSystem_ownerField (by decide)]
    · rw [Keyed.get?_put_of_ne _ (by decide), Entry.get?_read_of_ne hread (by decide),
        hown createdField isSystem_createdField (by decide)]
  one he := ⟨_, getOne_of_sound hs he, Keyed.get?_put_self _ (beq_self_eq_true idField) _⟩
  all := by
    intro name c hc
    have hsound : ∀ f ∈ c, f.2.Sound := Collections.Each.of_get? hs hc
    simpa only [Collections.getAll, Collections.collection, hc] using ids_of_readEntries hsound
  found := by
    intro name c hc equals
    have hsound : ∀ f ∈ c, f.2.Sound := Collections.Each.of_get? hs hc
    have hfiltered := ids_of_readEntries (c := c.filter fun f => Collections.meetsAll equals f.1 f.2)
      fun f hf => hsound f (List.mem_filter.mp hf).1
    simpa only [Collections.findExact, Collections.collection, hc] using hfiltered
  later hop h := change_stamps hs hop h

/-- However a store that was seeded with JSON came to where it is, and whatever its ids and its clock
are, its own fields are safe from the payloads it is given. -/
theorem system_fields_tamper_proof {seed : Draft} {cs : Collections} (hseed : Collections.ofSeed seed = .ok cs)
    (hstamped : seed.SeedsStamped) (ids : IdSource) (clock : Clock) {past : List Operation}
    (hpast : ∀ op ∈ past, op.IsJson) : TamperProof ((Store.mk cs ids clock).after past) :=
  tamperProof_of_sound (sound_after (Collections.sound_ofSeed hstamped hseed) hpast)

/-! ### A forger -/

def ownedSeed : Draft :=
  .object [("books", .object
    [("b1", .object [("title", .text "Dune"), ("_ownerId", .text "u1"), ("_updatedOn", .int 5)])])]

def ownedBooks : Collections :=
  [("books", [("b1", .ofRecord [("title", .text "Dune"), ("_ownerId", .text "u1"), ("_updatedOn", .int 5)])])]

def forgery : Operation :=
  .replace "books" "b1"
    (.ofValue (.object [("_ownerId", .text "u2"), ("_createdOn", .int 0), ("_updatedOn", .int 0)]))

theorem ownedSeed_stamped : ownedSeed.SeedsStamped := by
  intro c hc r hr record hrecord
  rw [List.mem_singleton.mp hc] at hr
  rw [List.mem_singleton.mp hr] at hrecord
  cases hrecord
  exact fun v hv => ⟨5, (Option.some.inj hv).symm⟩

/-- The book has been forged once and the clock has stood still at 3 ever since; a second forgery
leaves it with its owner and moves the time on from 6 to 7. -/
theorem system_fields_tamper_proof_forged :
    let s := (Store.mk ownedBooks (.numbered []) (.ofReadings 3 [])).after [forgery]
    Collections.ofSeed ownedSeed = .ok ownedBooks ∧ ownedSeed.SeedsStamped ∧
      (∀ op ∈ [forgery], op.IsJson) ∧
      (forgery.run s).1 = .ok [("_updatedOn", .int 7), ("_ownerId", .text "u1"), ("_id", .text "b1")] ∧
      (∃ record, (s.after [forgery]).collections.getOne "books" "b1" = .ok record ∧
        record.get? "_ownerId" = some (.text "u1") ∧ record.get? "_createdOn" = none) ∧
      ∃ (before : Record) (stamp : Int), s.collections.getOne "books" "b1" = .ok before ∧
        before.get? "_updatedOn" = some (.int 6) ∧ 6 < stamp ∧ stamp = 7 := by
  intro s
  have hj : ∀ op ∈ [forgery], op.IsJson := fun op h => List.mem_singleton.mp h ▸ ⟨_, rfl⟩
  have hsafe : TamperProof s := system_fields_tamper_proof rfl ownedSeed_stamped _ _ hj
  have hbefore : s.collections.getOne "books" "b1" =
      .ok [("_updatedOn", .int 6), ("_ownerId", .text "u1"), ("_id", .text "b1")] := rfl
  have hanswer : (forgery.run s).1 = .ok [("_updatedOn", .int 7), ("_ownerId", .text "u1"), ("_id", .text "b1")] := rfl
  refine ⟨rfl, ownedSeed_stamped, hj, hanswer, hsafe.kept hbefore hj (by simp [forgery]), ?_⟩
  obtain ⟨before, stamp, hb, -, hstamp, hlater⟩ := hsafe.later (.inl rfl) hanswer
  cases hbefore.symm.trans hb
  cases hstamp
  obtain ⟨last, hlast, hlt⟩ := hlater (.int 6) rfl
  cases hlast
  exact ⟨_, 7, hb, rfl, hlt, rfl⟩

end Store

end DocumentStore
