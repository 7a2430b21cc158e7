/-
  DocumentStore.Proofs.FailedWrites — what a failed operation leaves in the store.

  Most failures come before anything is changed: a payload that is no object, a value that is
  none, a record that is not there. One comes after: the names of a payload's own fields are not
  looked at before the new entry is in its place, only when it is read for the answer. So a
  failed operation changes the store exactly if its payload names a field by what is no text
  and nothing else is wrong (`failed_operation_keeps_iff`); then the entry stays, and cannot be
  read (`misnamed_field_is_installed`).
-/

import DocumentStore.Proofs.Operations

namespace DocumentStore.Store

/-! ## Payloads with a name that is no text -/

/-- A field of the payload is named by what is no text, and nothing else is wrong: whatever is
not the store's own is a value. -/
structure Misnamed (payload : Draft.Members) : Prop where
  foreign : ∃ f ∈ payload, ∀ name, f.1 ≠ .text name
  values : ∀ f ∈ payload, (∀ name, f.1 = .text name → isSystem name = false) → ∃ v, f.2.check = .ok v

namespace Entry

/-- A payload is stored if all but the store's own fields are values. -/
theorem ofPayload_of_values {payload : Draft.Members}
    (h : ∀ f ∈ payload, (∀ name, f.1 = .text name → isSystem name = false) → ∃ v, f.2.check = .ok v) :
    ∃ stored, ofPayload payload = .ok stored := by
  induction payload with
  | nil => exact ⟨_, rfl⟩
  | cons f rest ih =>
    obtain ⟨key, draft⟩ := f
    obtain ⟨stored, hrest⟩ := ih fun g hg => h g (List.mem_cons_of_mem _ hg)
    unfold ofPayload
    split
    · rename_i name
      split
      · exact ⟨stored, hrest⟩
      · rename_i hn
        obtain ⟨v, hv⟩ := h (.text name, draft) List.mem_cons_self fun other e => by
          rw [← Key.text.inj e]
          exact Bool.eq_false_iff.mpr hn
        exact ⟨_, by rw [hv, hrest]; rfl⟩
    · rename_i hk
      obtain ⟨v, hv⟩ := h (key, draft) List.mem_cons_self fun name e => absurd e (hk name)
      exact ⟨_, by rw [hv, hrest]; rfl⟩

theorem Takes.values {payload : Draft.Members} {stored : Entry} (h : Takes payload stored) :
    ∀ f ∈ payload, (∀ name, f.1 = .text name → isSystem name = false) → ∃ v, f.2.check = .ok v := by
  intro f hf hown
  induction h with
  | nil => exact absurd hf List.not_mem_nil
  | own hn _ ih =>
    rcases List.mem_cons.mp hf with rfl | hf
    · rw [hown _ rfl] at hn
      cases hn
    · exact ih hf
  | field _ hv _ ih =>
    rcases List.mem_cons.mp hf with rfl | hf
    · exact ⟨_, hv⟩
    · exact ih hf
  | foreign _ hv _ ih =>
    rcases List.mem_cons.mp hf with rfl | hf
    · exact ⟨_, hv⟩
    · exact ih hf

/-- An entry bears the mark exactly if a field of its payload is named by what is no text. -/
theorem Takes.foreign_ne_none_iff {payload : Draft.Members} {stored : Entry} (h : Takes payload stored) :
    stored.foreign ≠ none ↔ ∃ f ∈ payload, ∀ name, f.1 ≠ .text name := by
  induction h with
  | nil => simp
  | own _ _ ih => simpa using ih
  | field _ _ _ ih => simpa using ih
  | foreign hk _ _ _ => simpa using Or.inl hk

theorem misnamed_iff {payload : Draft.Members} :
    Misnamed payload ↔ ∃ stored, ofPayload payload = .ok stored ∧ stored.foreign ≠ none := by
  constructor
  · intro h
    obtain ⟨stored, hs⟩ := ofPayload_of_values h.values
    exact ⟨stored, hs, (takes_of_ofPayload hs).foreign_ne_none_iff.mpr h.foreign⟩
  · rintro ⟨stored, hs, hf⟩
    have htakes := takes_of_ofPayload hs
    exact ⟨htakes.foreign_ne_none_iff.mp hf, htakes.values⟩

theorem ownerOf_eq_ok_iff {payload : Draft.Members} : (∃ owner, ownerOf payload = .ok owner) ↔
    ∀ draft, payload.get? ownerField = some draft → ∃ v, draft.check = .ok v := by
  unfold ownerOf
  cases hget : payload.get? (.text ownerField) with
  | none => simp
  | some draft =>
    cases hcheck : draft.check with
    | error fault => simp [hcheck]
    | ok v => cases v <;> simp [hcheck]

end Entry

/-! ## Failures -/

def Operation.Spoils (s : Store) : Operation → Prop
  | .add _ payload => ∃ members, payload.members? = some members ∧ Misnamed members ∧
      ∀ draft, members.get? ownerField = some draft → ∃ v, draft.check = .ok v
  | .replace name id payload => ∃ members, payload.members? = some members ∧ Misnamed members ∧
      ∃ e, s.collections.stored? name id = some e
  | .merge name id payload => ∃ members, payload.members? = some members ∧ Misnamed members ∧
      ∃ e, s.collections.stored? name id = some e ∧ e.foreign = none
  | .delete _ _ => False

theorem spoils_iff {s : Store} {op : Operation} :
    op.Spoils s ↔ ∃ id e, Installs s op id e ∧ e.foreign ≠ none := by
  constructor
  · intro h
    cases op with
    | add name payload =>
      obtain ⟨members, hp, hm, howner⟩ := h
      obtain ⟨stored, hs, hf⟩ := Entry.misnamed_iff.mp hm
      obtain ⟨owner, ho⟩ := Entry.ownerOf_eq_ok_iff.mpr howner
      have hc : Entry.create members = .ok { stored with record := owner ++ stored.record } := by
        rw [Entry.create, ho, hs]
        rfl
      exact ⟨_, _, .add hp hc, hf⟩
    | replace name id payload =>
      obtain ⟨members, hp, hm, e, he⟩ := h
      obtain ⟨stored, hs, hf⟩ := Entry.misnamed_iff.mp hm
      exact ⟨_, _, .replace hp hs he, hf⟩
    | merge name id payload =>
      obtain ⟨members, hp, hm, e, he, hread⟩ := h
      obtain ⟨stored, hs, hf⟩ := Entry.misnamed_iff.mp hm
      exact ⟨_, _, .merge hp hs he hread, hf⟩
    | delete name id => exact h.elim
  · rintro ⟨id, e, h, hf⟩
    cases h with
    | add hp hc =>
      obtain ⟨owner, stored, ho, hs, rfl⟩ := Entry.create_parts hc
      exact ⟨_, hp, Entry.misnamed_iff.mpr ⟨stored, hs, hf⟩, Entry.ownerOf_eq_ok_iff.mp ⟨owner, ho⟩⟩
    | replace hp hc he => exact ⟨_, hp, Entry.misnamed_iff.mpr ⟨_, hc, hf⟩, _, he⟩
    | merge hp hc he hread => exact ⟨_, hp, Entry.misnamed_iff.mpr ⟨_, hc, hf⟩, _, he, hread⟩

/-- A failed operation either changed nothing, or has put its entry into the store before it could
not read it. -/
theorem failed_operation {s : Store} {op : Operation} {f : Failure} (h : (op.run s).1 = .error f) :
    (op.run s).2 = s ∨ ∃ id e ids, Installs s op id e ∧ e.read id = .error f ∧
      (op.run s).2 = s.putEntry op.collection id e ids s.clock.read.2 := by
  have hrun := run_spec s op
  generalize op.run s = out at h hrun
  cases hrun with
  | refused => exact Or.inl rfl
  | installed hi ids => exact Or.inr ⟨_, _, ids, hi, h, rfl⟩
  | removed => cases h

theorem failed_operation_keeps {s : Store} {op : Operation} {f : Failure} (h : (op.run s).1 = .error f)
    (hspoils : ¬ op.Spoils s) : (op.run s).2 = s := by
  rcases failed_operation h with hs | ⟨id, e, ids, hi, hread, -⟩
  · exact hs
  · obtain ⟨kind, hkind, -⟩ := Entry.read_eq_error hread
    exact absurd (spoils_iff.mpr ⟨id, e, hi, by rw [hkind]; exact Option.some_ne_none kind⟩) hspoils

/-- A failed operation leaves the collections as they were exactly if it does not spoil its
entry. If it does, the entry stands in its place, the failure tells of the name that is no text,
and nothing else has changed. -/
theorem failed_operation_keeps_iff {s : Store} {op : Operation} {f : Failure} (h : (op.run s).1 = .error f) :
    ((op.run s).2.collections = s.collections ↔ ¬ op.Spoils s) ∧
    (op.Spoils s → ∃ id e kind, e.foreign = some kind ∧ f = .value (.draft (.name kind)) ∧
      ∀ name' id' : String, (op.run s).2.collections.stored? name' id' =
        if name' = op.collection ∧ id' = id then some e else s.collections.stored? name' id') := by
  by_cases hspoils : op.Spoils s
  · obtain ⟨id, e, hi, hforeign⟩ := spoils_iff.mp hspoils
    obtain ⟨ids, hrun⟩ := hi.run_eq
    rw [hrun] at h ⊢
    obtain ⟨kind, hkind, rfl⟩ := Entry.read_eq_error h
    refine ⟨iff_of_false (putEntry_collections_ne hi.stored?_ne ids _) (not_not_intro hspoils),
      fun _ => ⟨id, e, kind, hkind, rfl, fun name' id' => ?_⟩⟩
    exact Collections.stored?_putEntry ..
  · exact ⟨iff_of_true (by rw [failed_operation_keeps h hspoils]) hspoils, fun hs => absurd hs hspoils⟩

/-! ### A book with a number for a name -/

def emptyShelf : Store := ⟨[("books", [])], .numbered ["b1"], .ofReadings 1000 []⟩

def numberedBook : Draft := .object [(.text "title", .text "Dune"), (.int 1, .int 2)]

/-- A merge into a book that is not there fails and leaves the shelf empty. -/
theorem failed_operation_keeps_iff_missing :
    let op := Operation.merge "books" "b1" numberedBook
    (op.run emptyShelf).1 = .error (.missing (.entry "b1")) ∧ ¬ op.Spoils emptyShelf ∧
      (op.run emptyShelf).2.collections = emptyShelf.collections := by
  intro op
  have hfails : (op.run emptyShelf).1 = .error (.missing (.entry "b1")) := rfl
  have hspoils : ¬ op.Spoils emptyShelf := by rintro ⟨_, _, _, _, ⟨⟩, _⟩
  exact ⟨hfails, hspoils, (failed_operation_keeps_iff hfails).1.mpr hspoils⟩

def spoiledShelf : Collections :=
  [("books", [("b1", ⟨[("title", .text "Dune"), ("_createdOn", .int 1000)], some "int"⟩)])]

/-- Adding the book fails, but then it is on the shelf, where nobody can read it. -/
theorem misnamed_field_is_installed :
    let out := (Operation.add "books" numberedBook).run emptyShelf
    out.1 = .error (.value (.draft (.name "int"))) ∧
      out.2.collections = spoiledShelf ∧ spoiledShelf ≠ emptyShelf.collections ∧
      out.2.collections.getOne "books" "b1" = .error (.value (.draft (.name "int"))) :=
  ⟨rfl, rfl, by rintro ⟨⟩, rfl⟩

end DocumentStore.Store
