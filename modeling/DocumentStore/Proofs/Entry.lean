/-
  DocumentStore.Proofs.Entry — what is stored of a payload, and what a stored record keeps
  through a write.

  - `mem_ofPayload`: what is stored of a payload are values that stand in it.
  - `ofPayload_ofMembers`: of a JSON object, which as a payload is `Draft.ofMembers ms`, these
    are all its fields but the store's own. A JSON value is accepted as it is
    (`check_ofValue`).
  - `get?_replace`, `get?_merge`: a field that is not the store's own is after a
    replacement what the payload says, after a merge what the payload says over the old.
  - `get?_replace_own`, `get?_merge_own`, `get?_create_owner`: the store's own fields stay as they
    are but for the time of the last change, which moves on (`lt_changeStamp`); only a creation
    takes the owner from its payload.
-/

import DocumentStore.Proofs.Named
import DocumentStore.Proofs.Result
import DocumentStore.Store.Entry

namespace DocumentStore

/-! ## Texts as keys -/

namespace Key

theorem text_beq_text (a b : String) : (Key.text a == Key.text b) = (a == b) := by
  show same (.text a) (.text b) = (a == b)
  rw [same]

@[simp] theorem text_beq_self (a : String) : (Key.text a == Key.text a) = true := by
  rw [text_beq_text]
  exact beq_self_eq_true a

/-- Only a text equals a text. -/
theorem eq_of_beq_text {k : Key} {a : String} (h : (k == .text a) = true) : k = .text a := by
  cases k with
  | text b =>
    rw [text_beq_text] at h
    rw [eq_of_beq h]
  | _ => exact absurd h (by simp [BEq.beq, same, quantity?])

/-- A text equals no key but itself. -/
theorem text_beq_of_ne {name : String} {other : Key} (hne : other ≠ .text name) : (Key.text name == other) = false := by
  cases other with
  | text b =>
    rw [text_beq_text]
    exact beq_eq_false_iff_ne.mpr fun e => hne (by rw [e])
  | _ => simp [BEq.beq, same, quantity?]

theorem beq_text_comm (key : Key) (name : String) : (key == .text name) = (Key.text name == key) := by
  by_cases h : key = .text name
  · rw [h]
  · rw [text_beq_of_ne h]
    exact Bool.eq_false_iff.mpr fun e => h (eq_of_beq_text e)

section Fields

variable {α : Type} {name : String} {other : Key}

theorem get?_put_of_ne (fields : Keyed Key α) (hne : other ≠ .text name) (value : α) :
    Keyed.get? (fields.put (.text name) value) other = fields.get? other := by
  have hk := text_beq_of_ne hne
  exact Keyed.get?_put_of_not_beq fields hk (fun k h => eq_of_beq_text h ▸ hk) value

theorem get?_erase_of_ne (fields : Keyed Key α) (hne : other ≠ .text name) :
    Keyed.get? (fields.erase (.text name)) other = fields.get? other := by
  induction fields with
  | nil => rfl
  | cons f rest ih =>
    rw [Keyed.get?_cons, ← ih]
    by_cases h : (f.1 == .text name) = true
    · have hnot : (f.1 == other) = false := eq_of_beq_text h ▸ text_beq_of_ne hne
      simp [Keyed.erase, h, hnot]
    · simp [Keyed.erase, Keyed.get?_cons, h]

end Fields

end Key

/-! ## Values as drafts -/

namespace Draft

mutual

theorem check_ofValue : (v : Value) → (ofValue v).check = .ok v
  | .null => rfl
  | .bool _ => rfl
  | .int _ => rfl
  | .float _ => rfl
  | .text _ => rfl
  | .list items => by rw [ofValue, check, checkItems_ofItems items]; rfl
  | .object members => by rw [ofValue, check, checkMembers_ofMembers members]; rfl

theorem checkItems_ofItems : (vs : List Value) → checkItems (ofItems vs) = .ok vs
  | [] => rfl
  | v :: vs => by rw [ofItems, checkItems, check_ofValue v, checkItems_ofItems vs]; rfl

theorem checkMembers_ofMembers : (ms : Record) → checkMembers (ofMembers ms) = .ok ms
  | [] => rfl
  | (n, v) :: ms => by rw [ofMembers, checkMembers, check_ofValue v, checkMembers_ofMembers ms]; rfl

end

theorem get?_ofMembers (ms : Record) (name : String) :
    Keyed.get? (ofMembers ms) (.text name) = (ms.get? name).map ofValue := by
  induction ms with
  | nil => rfl
  | cons f rest ih =>
    obtain ⟨n, v⟩ := f
    rw [ofMembers, Keyed.get?_cons, Keyed.get?_cons, Key.text_beq_text, ih]
    split <;> rfl

theorem ofMembers_erase (ms : Record) (name : String) :
    Keyed.erase (ofMembers ms) (.text name) = ofMembers (ms.erase name) := by
  induction ms with
  | nil => rfl
  | cons f rest ih =>
    obtain ⟨n, v⟩ := f
    simp only [Keyed.erase] at ih ⊢
    simp only [ofMembers, List.filter_cons, Key.text_beq_text, ih]
    split <;> rfl

theorem ofMembers_put (ms : Record) (name : String) (v : Value) :
    Keyed.put (ofMembers ms) (.text name) (ofValue v) = ofMembers (ms.put name v) := by
  induction ms with
  | nil => rfl
  | cons f rest ih =>
    obtain ⟨n, w⟩ := f
    simp only [ofMembers, Keyed.put, Key.text_beq_text]
    split
    · rfl
    · rw [ih, ofMembers]

mutual

theorem asValue?_ofValue : (v : Value) → (ofValue v).asValue? = some v
  | .null => rfl
  | .bool _ => rfl
  | .int _ => rfl
  | .float _ => rfl
  | .text _ => rfl
  | .list items => by rw [ofValue, asValue?, asItems?_ofItems items, Option.map_some]
  | .object members => by rw [ofValue, asValue?, asMembers?_ofMembers members, Option.map_some]

theorem asItems?_ofItems : (vs : List Value) → asItems? (ofItems vs) = some vs
  | [] => rfl
  | v :: vs => by rw [ofItems, asItems?, asValue?_ofValue v, asItems?_ofItems vs]

theorem asMembers?_ofMembers : (ms : Record) → asMembers? (ofMembers ms) = some ms
  | [] => rfl
  | (n, v) :: ms => by rw [ofMembers, asMembers?, asValue?_ofValue v, asMembers?_ofMembers ms]

end

theorem truthy_ofValue (v : Value) : (ofValue v).truthy = v.truthy := by
  cases v with
  | list items => cases items <;> rfl
  | object members => cases members <;> rfl
  | _ => rfl

theorem members?_ofValue {v : Value} {members : Members} (h : (ofValue v).members? = some members) :
    ∃ ms, v = .object ms ∧ members = ofMembers ms := by
  cases v with
  | object ms => exact ⟨ms, rfl, (Option.some.inj h).symm⟩
  | _ => cases h

theorem exists_of_mem_ofMembers {ms : Record} {f : Key × Draft} (h : f ∈ ofMembers ms) :
    ∃ name v, f = (.text name, ofValue v) := by
  induction ms with
  | nil => exact absurd h List.not_mem_nil
  | cons g rest ih =>
    rcases List.mem_cons.mp h with rfl | h
    · exact ⟨g.1, g.2, rfl⟩
    · exact ih h

/-- Whatever stands in a JSON object is a value. -/
theorem check_of_get?_ofMembers {ms : Record} {key : Key} {draft : Draft}
    (h : Keyed.get? (ofMembers ms) key = some draft) : ∃ v, draft.check = .ok v :=
  Keyed.forall_of_get? (P := fun d : Draft => ∃ v, d.check = .ok v)
    (fun f hf => by
      obtain ⟨name, v, rfl⟩ := exists_of_mem_ofMembers hf
      exact ⟨v, check_ofValue v⟩) h

end Draft

namespace Store

/-! ## The store's own fields -/

theorem ne_of_isSystem {own field : String} (ho : isSystem own = true) (hf : isSystem field = false) :
    field ≠ own := by
  rintro rfl
  rw [ho] at hf
  cases hf

theorem isSystem_idField : isSystem idField = true := by decide

theorem isSystem_ownerField : isSystem ownerField = true := by decide

theorem isSystem_createdField : isSystem createdField = true := by decide

theorem isSystem_updatedField : isSystem updatedField = true := by decide

namespace Entry

theorem mem_systemPart {record : Record} {f : String × Value} (h : f ∈ systemPart record) :
    isSystem f.1 = true := by
  obtain ⟨name, hn, hv⟩ := List.mem_filterMap.mp h
  obtain ⟨v, -, rfl⟩ := Option.map_eq_some_iff.mp hv
  exact List.contains_iff_mem.mpr hn

theorem get?_systemPart {record : Record} {field : String} (hf : isSystem field = false) :
    (systemPart record).get? field = none :=
  Keyed.get?_eq_none_of_forall fun f hm => by
    simpa using Ne.symm (ne_of_isSystem (mem_systemPart hm) hf)

/-- The part of a record that is the store's own has all its own fields. -/
theorem get?_systemPart_own (record : Record) {own : String} (ho : isSystem own = true) :
    (systemPart record).get? own = record.get? own := by
  rw [systemPart, Keyed.get?_filterMap, if_pos (List.contains_iff_mem.mp ho)]

/-! ## Payloads -/

/-- How an entry comes about from a payload: the store's own fields are skipped, others are
taken, and what no text names leaves its mark. -/
inductive Takes : Draft.Members → Entry → Prop
  | nil : Takes [] ⟨[], none⟩
  | own {name : String} {draft : Draft} {rest : Draft.Members} {stored : Entry}
      (hn : isSystem name = true) (hrest : Takes rest stored) : Takes ((.text name, draft) :: rest) stored
  | field {name : String} {draft : Draft} {value : Value} {rest : Draft.Members} {stored : Entry}
      (hn : isSystem name = false) (hv : draft.check = .ok value) (hrest : Takes rest stored) :
      Takes ((.text name, draft) :: rest) { stored with record := (name, value) :: stored.record }
  | foreign {key : Key} {draft : Draft} {value : Value} {rest : Draft.Members} {stored : Entry}
      (hk : ∀ name, key ≠ .text name) (hv : draft.check = .ok value) (hrest : Takes rest stored) :
      Takes ((key, draft) :: rest) { stored with foreign := some key.kind }

theorem takes_of_ofPayload {payload : Draft.Members} {entry : Entry} (h : ofPayload payload = .ok entry) :
    Takes payload entry := by
  induction payload generalizing entry with
  | nil =>
    cases h
    exact .nil
  | cons g rest ih =>
    obtain ⟨key, draft⟩ := g
    unfold ofPayload at h
    split at h
    · split at h
      · rename_i hn
        exact .own hn (ih h)
      split at h
      · cases h
      rename_i hn _ value hv
      obtain ⟨stored, hrest, rfl⟩ := Result.map_eq_ok.mp h
      exact .field (Bool.eq_false_iff.mpr hn) hv (ih hrest)
    · rename_i hk
      split at h
      · cases h
      rename_i value hv
      obtain ⟨stored, hrest, rfl⟩ := Result.map_eq_ok.mp h
      exact .foreign hk hv (ih hrest)

/-- Of a payload its fields are stored, but not those that are the store's own. -/
theorem ofPayload_ofMembers (ms : Record) :
    ofPayload (Draft.ofMembers ms) = .ok (.ofRecord (ms.drop isSystem)) := by
  induction ms with
  | nil => rfl
  | cons f rest ih =>
    obtain ⟨name, v⟩ := f
    simp only [Draft.ofMembers, ofPayload, Draft.check_ofValue, ih, Keyed.drop, List.filter_cons]
    cases isSystem name <;> rfl

theorem mem_drop_isSystem {ms : Record} {f : String × Value} :
    f ∈ ms.drop isSystem ↔ f ∈ ms ∧ isSystem f.1 = false := by
  simp [Keyed.drop, List.mem_filter]

/-- What is stored of a payload are values that stand in it. -/
theorem mem_ofPayload {payload : Draft.Members} {entry : Entry} (h : ofPayload payload = .ok entry)
    {f : String × Value} (hm : f ∈ entry.record) :
    ∃ draft, (.text f.1, draft) ∈ payload ∧ draft.check = .ok f.2 := by
  have htakes := takes_of_ofPayload h
  clear h
  induction htakes with
  | nil => exact absurd hm List.not_mem_nil
  | own _ _ ih =>
    obtain ⟨draft, hd, hcheck⟩ := ih hm
    exact ⟨draft, List.mem_cons_of_mem _ hd, hcheck⟩
  | field _ hv _ ih =>
    rcases List.mem_cons.mp hm with rfl | hm
    · exact ⟨_, List.mem_cons_self, hv⟩
    · obtain ⟨draft, hd, hcheck⟩ := ih hm
      exact ⟨draft, List.mem_cons_of_mem _ hd, hcheck⟩
  | foreign _ _ _ ih =>
    obtain ⟨draft, hd, hcheck⟩ := ih hm
    exact ⟨draft, List.mem_cons_of_mem _ hd, hcheck⟩

/-- A field is stored as the value that the payload gives under its name. -/
theorem get?_ofPayload {payload : Draft.Members} {entry : Entry} (h : ofPayload payload = .ok entry)
    {field : String} (hf : isSystem field = false) :
    entry.record.get? field = (payload.get? (.text field)).bind fun draft => draft.check.toOption := by
  have htakes := takes_of_ofPayload h
  clear h
  induction htakes with
  | nil => rfl
  | @own name draft rest stored hn _ ih =>
    have hne : (Key.text name == .text field) = false :=
      Key.text_beq_of_ne (mt Key.text.inj (ne_of_isSystem hn hf))
    rw [ih, Keyed.get?_cons, if_neg (by rw [hne]; exact Bool.false_ne_true)]
  | @field name draft value rest stored _ hv _ ih =>
    rw [Keyed.get?_cons, Keyed.get?_cons, Key.text_beq_text, ih]
    split
    · rw [Option.bind_some, hv]
      rfl
    · rfl
  | @foreign key draft value rest stored hk _ _ ih =>
    have hne : ¬ (key == .text field) = true := fun h => hk field (Key.eq_of_beq_text h)
    rw [ih, Keyed.get?_cons, if_neg hne]

/-- The store's own fields are stored of no payload. -/
theorem get?_ofPayload_own {payload : Draft.Members} {entry : Entry} (h : ofPayload payload = .ok entry)
    {own : String} (ho : isSystem own = true) : entry.record.get? own = none := by
  have htakes := takes_of_ofPayload h
  clear h
  induction htakes with
  | nil => rfl
  | own _ _ ih => exact ih
  | field hn _ _ ih => rw [Keyed.get?_cons, if_neg (by simpa using ne_of_isSystem ho hn), ih]
  | foreign _ _ _ ih => exact ih

theorem mem_ownerOf {payload : Draft.Members} {owner : Record} (h : ownerOf payload = .ok owner)
    {f : String × Value} (hm : f ∈ owner) : f.1 = ownerField := by
  unfold ownerOf at h
  split at h
  · cases h
    exact absurd hm List.not_mem_nil
  split at h
  · cases h
  · cases h
    exact absurd hm List.not_mem_nil
  · cases h
    rw [List.mem_singleton.mp hm]

/-- A new entry is its owner and what is stored of the payload. -/
theorem create_parts {payload : Draft.Members} {entry : Entry} (h : create payload = .ok entry) :
    ∃ owner stored, ownerOf payload = .ok owner ∧ ofPayload payload = .ok stored ∧
      entry = { stored with record := owner ++ stored.record } := by
  unfold create at h
  split at h
  · cases h
  · rename_i owner howner
    obtain ⟨stored, hs, rfl⟩ := Result.map_eq_ok.mp h
    exact ⟨owner, stored, howner, hs, rfl⟩

/-- Of the store's own fields a new entry has the owner at most. -/
theorem get?_create_own {payload : Draft.Members} {entry : Entry} (h : create payload = .ok entry)
    {own : String} (ho : isSystem own = true) (hne : own ≠ ownerField) : entry.record.get? own = none := by
  obtain ⟨owner, stored, howner, hs, rfl⟩ := create_parts h
  have hnone : owner.get? own = none :=
    Keyed.get?_eq_none_of_forall fun f hm => by
      rw [mem_ownerOf howner hm]
      exact beq_eq_false_iff_ne.mpr (Ne.symm hne)
  rw [Keyed.get?_append, hnone, Option.none_or, get?_ofPayload_own hs ho]

theorem get?_create_owner {payload : Draft.Members} {entry : Entry} {owner : Record}
    (h : create payload = .ok entry) (howner : ownerOf payload = .ok owner) :
    entry.record.get? ownerField = owner.get? ownerField := by
  obtain ⟨owner', stored, howner', hs, rfl⟩ := create_parts h
  obtain rfl : owner = owner' := Except.ok.inj (howner.symm.trans howner')
  rw [Keyed.get?_append, get?_ofPayload_own hs isSystem_ownerField, Option.or_none]

/-- Any JSON object makes a new entry that can be read. -/
theorem create_ofMembers (ms : Record) : ∃ record, create (Draft.ofMembers ms) = .ok (.ofRecord record) := by
  obtain ⟨owner, howner⟩ : ∃ owner, ownerOf (Draft.ofMembers ms) = .ok owner := by
    unfold ownerOf
    split
    · exact ⟨_, rfl⟩
    rename_i draft hd
    obtain ⟨v, hv⟩ := Draft.check_of_get?_ofMembers hd
    rw [hv]
    split
    · rename_i hno
      cases hno
    all_goals exact ⟨_, rfl⟩
  exact ⟨_, by rw [create, howner, ofPayload_ofMembers]; rfl⟩

/-- A new entry has, beside its owner, what is stored of the payload. -/
theorem create_eq_ok {payload : Draft.Members} {entry : Entry} (h : create payload = .ok entry) :
    ∃ stored, ofPayload payload = .ok stored ∧
      ∀ field, isSystem field = false → entry.record.get? field = stored.record.get? field := by
  obtain ⟨owner, stored, howner, hs, rfl⟩ := create_parts h
  refine ⟨stored, hs, fun field hf => ?_⟩
  have hnone : owner.get? field = none :=
    Keyed.get?_eq_none_of_forall fun f hm => by
      rw [mem_ownerOf howner hm]
      exact beq_eq_false_iff_ne.mpr (Ne.symm (ne_of_isSystem isSystem_ownerField hf))
  rw [Keyed.get?_append, hnone, Option.none_or]

/-! ## Changes -/

variable {entry changes : Entry} {field : String} {now : Int}

theorem read_of_foreign (hn : entry.foreign = none) (id : String) :
    entry.read id = .ok (entry.record.put idField (.text id)) := by
  simp only [read, hn]

/-- A record is read with its id, and otherwise as it is stored. -/
theorem read_eq_ok {id : String} {record : Record} (h : entry.read id = .ok record) :
    entry.foreign = none ∧ record = entry.record.put idField (.text id) := by
  unfold read at h
  split at h
  · cases h
  · rename_i hn
    exact ⟨hn, (Except.ok.inj h).symm⟩

/-- What cannot be read is an entry with a mark. -/
theorem read_eq_error {id : String} {f : Failure} (h : entry.read id = .error f) :
    ∃ kind, entry.foreign = some kind ∧ f = .value (.draft (.name kind)) := by
  unfold read at h
  split at h
  · rename_i kind hk
    exact ⟨kind, hk, (Except.error.inj h).symm⟩
  · cases h

theorem get?_read_id {id : String} {record : Record} (h : entry.read id = .ok record) :
    record.get? idField = some (.text id) := by
  rw [(read_eq_ok h).2, Keyed.get?_put_self _ (beq_self_eq_true idField)]

theorem get?_read_of_ne {id : String} {record : Record} (h : entry.read id = .ok record)
    (hne : field ≠ idField) : record.get? field = entry.record.get? field := by
  rw [(read_eq_ok h).2, Keyed.get?_put_of_ne _ hne]

theorem get?_read {id : String} {record : Record} (h : entry.read id = .ok record)
    (hf : isSystem field = false) : record.get? field = entry.record.get? field :=
  get?_read_of_ne h (ne_of_isSystem isSystem_idField hf)

theorem get?_put (entry : Entry) {own : String} (ho : isSystem own = true) (hf : isSystem field = false)
    (value : Value) : (entry.put own value).record.get? field = entry.record.get? field :=
  Keyed.get?_put_of_ne _ (ne_of_isSystem ho hf) _

theorem get?_replace (hf : isSystem field = false) :
    (entry.replace changes now).record.get? field = changes.record.get? field := by
  rw [replace, get?_put _ isSystem_updatedField hf, Keyed.get?_append, get?_systemPart hf, Option.or_none]

theorem get?_merge (hf : isSystem field = false) :
    (entry.merge changes now).record.get? field = (entry.record.overlay changes.record).get? field := by
  rw [merge, get?_put _ isSystem_updatedField hf]

/-! ## The store's own fields in a changed entry -/

variable {own : String}

theorem get?_replace_own (hc : changes.record.get? own = none) (ho : isSystem own = true)
    (hne : own ≠ updatedField) : (entry.replace changes now).record.get? own = entry.record.get? own := by
  rw [replace, put, Keyed.get?_put_of_ne _ hne, Keyed.get?_append, hc, Option.none_or,
    get?_systemPart_own entry.record ho]

theorem get?_merge_own (hc : changes.record.get? own = none) (hne : own ≠ updatedField) :
    (entry.merge changes now).record.get? own = entry.record.get? own := by
  have hforall : ∀ f ∈ changes.record, f.1 ≠ own := fun f hf e =>
    Keyed.get?_eq_none_iff.mp hc (e ▸ List.mem_map_of_mem hf)
  rw [merge, put, Keyed.get?_put_of_ne _ hne, Keyed.get?_overlay_of_forall_ne hforall]

theorem get?_put_self (entry : Entry) (field : String) (value : Value) :
    (entry.put field value).record.get? field = some value :=
  Keyed.get?_put_self _ (beq_self_eq_true field) value

theorem lt_changeStamp {record : Record} {last : Int} (h : record.get? updatedField = some (.int last))
    (now : Int) : last < changeStamp record now := by
  unfold changeStamp
  rw [h]
  dsimp only
  split <;> omega

end Entry

end Store

end DocumentStore
