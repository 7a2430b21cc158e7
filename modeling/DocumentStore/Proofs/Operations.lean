/-
  DocumentStore.Proofs.Operations — the four operations of a store, one by one and in a row.

  Whatever an operation is given, its run comes to one of three ends (`run_spec`): it is
  refused and the store stays as it was, it puts one entry in its place (`Installs` says
  which) and answers by reading that, or it takes one entry out. An entry is never put where
  it stands already (`Installs.stored?_ne`): a new one gets an id that is not taken, a changed one
  a later time of its last change. So what all entries have and every operation puts, all entries
  keep (`after_each`), and a record is there until it is deleted (`entry_kept_after`).
-/

import DocumentStore.Proofs.Collections
import DocumentStore.Proofs.Supply

namespace DocumentStore.Store

inductive Operation where
  | add (name : String) (payload : Draft)
  | replace (name id : String) (payload : Draft)
  | merge (name id : String) (payload : Draft)
  | delete (name id : String)

namespace Operation

def collection : Operation → String
  | .add name _ => name
  | .replace name _ _ => name
  | .merge name _ _ => name
  | .delete name _ => name

def run (op : Operation) (s : Store) : Except Failure Record × Store :=
  match op with
  | .add name payload => s.add name payload
  | .replace name id payload => s.replace name id payload
  | .merge name id payload => s.merge name id payload
  | .delete name id => s.delete name id

end Operation

/-- The store after some operations, whatever came of each. -/
def after (s : Store) (ops : List Operation) : Store := ops.foldl (fun s op => (op.run s).2) s

def nextId (s : Store) (name : String) : String × IdSource :=
  s.ids.fresh ((s.collections.get? name).getD []).names

/-- The next id of a collection is none of its own. -/
theorem stored?_nextId (s : Store) (name : String) : s.collections.stored? name (s.nextId name).1 = none :=
  Keyed.get?_eq_none_iff.mpr (IdSource.fresh_not_mem s.ids _)

/-! ## One run -/

/-- The entry that an operation puts under an id, if it comes that far: a new one under a fresh
id, or what a change makes of the one that is there. -/
inductive Installs (s : Store) : Operation → String → Entry → Prop
  | add {name : String} {payload : Draft} {members : Draft.Members} {e : Entry}
      (hp : payload.members? = some members) (hc : Entry.create members = .ok e) :
      Installs s (.add name payload) (s.nextId name).1 (e.put createdField (.int s.clock.read.1))
  | replace {name id : String} {payload : Draft} {members : Draft.Members} {changes e : Entry}
      (hp : payload.members? = some members) (hc : Entry.ofPayload members = .ok changes)
      (he : s.collections.stored? name id = some e) :
      Installs s (.replace name id payload) id (e.replace changes s.clock.read.1)
  | merge {name id : String} {payload : Draft} {members : Draft.Members} {changes e : Entry}
      (hp : payload.members? = some members) (hc : Entry.ofPayload members = .ok changes)
      (he : s.collections.stored? name id = some e) (hf : e.foreign = none) :
      Installs s (.merge name id payload) id (e.merge changes s.clock.read.1)

inductive Run (s : Store) : Operation → Except Failure Record × Store → Prop
  | refused {op : Operation} (f : Failure) : Run s op (.error f, s)
  | installed {op : Operation} {id : String} {e : Entry} (h : Installs s op id e) (ids : IdSource) :
      Run s op (e.read id, s.putEntry op.collection id e ids s.clock.read.2)
  | removed {name id : String} {e : Entry} (he : s.collections.stored? name id = some e) :
      Run s (.delete name id) (.ok [(deletedField, .int s.clock.read.1)],
        ⟨s.collections.put name ((s.collections.named name).erase id), s.ids, s.clock.read.2⟩)

theorem run_spec (s : Store) (op : Operation) : Run s op (op.run s) := by
  cases op with
  | add name payload =>
    simp only [Operation.run, Store.add]
    split
    · exact .refused _
    split
    · exact .refused _
    · rename_i hp _ e hc
      exact .installed (.add hp hc) _
  | replace name id payload =>
    simp only [Operation.run, Store.replace]
    split
    · exact .refused _
    split
    · exact .refused _
    split
    · exact .refused _
    · rename_i hp _ _ hc _ e he
      exact .installed (.replace hp hc (Collections.entry_eq_ok_iff.mp he)) _
  | merge name id payload =>
    simp only [Operation.run, Store.merge]
    split
    · exact .refused _
    split
    · exact .refused _
    split
    · exact .refused _
    split
    · exact .refused _
    · rename_i hp _ _ hc _ _ he _ hf
      exact .installed (.merge hp hc (Collections.entry_eq_ok_iff.mp he) hf) _
  | delete name id =>
    simp only [Operation.run, Store.delete]
    split
    · exact .refused _
    · rename_i e he
      exact .removed (Collections.entry_eq_ok_iff.mp he)

/-- What an operation installs it does install. -/
theorem Installs.run_eq {s : Store} {op : Operation} {id : String} {e : Entry} (h : Installs s op id e) :
    ∃ ids, op.run s = (e.read id, s.putEntry op.collection id e ids s.clock.read.2) := by
  cases h with
  | add hp hc =>
    simp only [Operation.run, Store.add, hp, hc]
    exact ⟨_, rfl⟩
  | replace hp hc he =>
    simp only [Operation.run, Store.replace, hp, hc, Collections.entry_eq_ok_iff.mpr he]
    exact ⟨_, rfl⟩
  | merge hp hc he hf =>
    simp only [Operation.run, Store.merge, hp, hc, Collections.entry_eq_ok_iff.mpr he, hf]
    exact ⟨_, rfl⟩

/-- An entry is put where it does not stand yet. -/
theorem Installs.stored?_ne {s : Store} {op : Operation} {id : String} {e : Entry} (h : Installs s op id e) :
    s.collections.stored? op.collection id ≠ some e := by
  -- A changed entry has a stamp, and the one that stands there has none or an earlier one.
  have hstamp : ∀ {old new : Entry}, new.record.get? updatedField =
      some (.int (Entry.changeStamp old.record s.clock.read.1)) → some old ≠ some new := by
    rintro old new hnew ⟨⟩
    exact Int.lt_irrefl _ (Entry.lt_changeStamp hnew _)
  cases h with
  | add hp hc =>
    rw [Operation.collection, stored?_nextId]
    exact Option.some_ne_none _ ∘ Eq.symm
  | replace hp hc he =>
    rw [Operation.collection, he]
    exact hstamp (Entry.get?_put_self ..)
  | merge hp hc he hf =>
    rw [Operation.collection, he]
    exact hstamp (Entry.get?_put_self ..)

/-- Putting an entry where it does not stand yet changes the collections. -/
theorem putEntry_collections_ne {s : Store} {name id : String} {e : Entry}
    (h : s.collections.stored? name id ≠ some e) (ids : IdSource) (clock : Clock) :
    (s.putEntry name id e ids clock).collections ≠ s.collections := by
  intro heq
  refine h ?_
  rw [← heq, Collections.stored?_putEntry, if_pos ⟨rfl, rfl⟩]

/-- An operation that succeeds changes the collections. -/
theorem succeeded_changes {s : Store} {op : Operation} {answer : Record} (h : (op.run s).1 = .ok answer) :
    (op.run s).2.collections ≠ s.collections := by
  have hrun := run_spec s op
  generalize op.run s = out at h hrun
  cases hrun with
  | refused => cases h
  | installed hi ids => exact putEntry_collections_ne hi.stored?_ne ids _
  | @removed name id e he =>
    intro heq
    dsimp only at heq
    have hgone := Collections.stored?_removal s.collections name id name id
    rw [heq, he, if_pos ⟨rfl, rfl⟩] at hgone
    cases hgone

/-! ## What every entry has -/

/-- What every entry has, and what an operation puts, every entry has after the operation. -/
theorem run_each {P : Entry → Prop} {s : Store} {op : Operation} (hs : s.collections.Each P)
    (hi : ∀ {id e}, Installs s op id e → P e) : (op.run s).2.collections.Each P := by
  have hrun := run_spec s op
  generalize op.run s = out at hrun
  cases hrun with
  | refused => exact hs
  | installed h ids =>
    exact Keyed.forall_put (P := fun c : Collection => ∀ f ∈ c, P f.2) hs (Keyed.forall_put (hs.named _) (hi h))
  | removed he =>
    exact Keyed.forall_put (P := fun c : Collection => ∀ f ∈ c, P f.2) hs
      fun f hf => hs.named _ f (Keyed.mem_erase.mp hf).1

theorem after_each {P : Entry → Prop} {s : Store} {ops : List Operation} (hs : s.collections.Each P)
    (hi : ∀ op ∈ ops, ∀ {s id e}, Installs s op id e → P e) : (s.after ops).collections.Each P := by
  induction ops generalizing s with
  | nil => exact hs
  | cons op rest ih =>
    exact ih (run_each hs (hi op List.mem_cons_self)) fun o ho => hi o (List.mem_cons_of_mem op ho)

/-! ## The life of a record -/

/-- An operation that does not delete a record leaves it there, and of its own fields the store
changes the time of the last change alone. -/
theorem entry_kept {s : Store} {op : Operation} {name id : String} {e : Entry}
    (he : s.collections.stored? name id = some e) (hop : op ≠ .delete name id) :
    ∃ e', (op.run s).2.collections.stored? name id = some e' ∧
      ∀ own, isSystem own = true → own ≠ updatedField → e'.record.get? own = e.record.get? own := by
  have hrun := run_spec s op
  generalize op.run s = out at hrun
  cases hrun with
  | refused => exact ⟨e, he, fun _ _ _ => rfl⟩
  | @installed _ id' e' hi ids =>
    rw [Collections.stored?_putEntry]
    split
    · rename_i hhere
      obtain ⟨rfl, rfl⟩ := hhere
      refine ⟨e', rfl, fun own ho hne => ?_⟩
      cases hi with
      | add hp hc =>
        rw [Operation.collection, stored?_nextId] at he
        cases he
      | replace hp hc hold =>
        cases hold.symm.trans he
        exact Entry.get?_replace_own (Entry.get?_ofPayload_own hc ho) ho hne
      | merge hp hc hold hf =>
        cases hold.symm.trans he
        exact Entry.get?_merge_own (Entry.get?_ofPayload_own hc ho) hne
    · exact ⟨e, he, fun _ _ _ => rfl⟩
  | @removed name' id' e' he' =>
    rw [Collections.stored?_removal, if_neg]
    · exact ⟨e, he, fun _ _ _ => rfl⟩
    · rintro ⟨rfl, rfl⟩
      exact hop rfl

theorem entry_kept_after {s : Store} {ops : List Operation} {name id : String} {e : Entry}
    (he : s.collections.stored? name id = some e) (hops : .delete name id ∉ ops) :
    ∃ e', (s.after ops).collections.stored? name id = some e' ∧
      ∀ own, isSystem own = true → own ≠ updatedField → e'.record.get? own = e.record.get? own := by
  induction ops generalizing s e with
  | nil => exact ⟨e, he, fun _ _ _ => rfl⟩
  | cons op rest ih =>
    have hop : op ≠ .delete name id := fun h => hops (h ▸ List.mem_cons_self)
    obtain ⟨e₁, he₁, hown₁⟩ := entry_kept he hop
    obtain ⟨e₂, he₂, hown₂⟩ := ih he₁ fun h => hops (List.mem_cons_of_mem op h)
    exact ⟨e₂, he₂, fun own ho hne => (hown₂ own ho hne).trans (hown₁ own ho hne)⟩

/-- After a deletion there is no such entry, whether or not there was one. -/
theorem stored?_delete (s : Store) (name id : String) :
    ((Operation.delete name id).run s).2.collections.stored? name id = none := by
  simp only [Operation.run, Store.delete]
  split
  · rename_i f hf
    cases h : s.collections.stored? name id with
    | none => rfl
    | some e => cases hf.symm.trans (Collections.entry_eq_ok_iff.mpr h)
  · exact (Collections.stored?_removal ..).trans (if_pos ⟨rfl, rfl⟩)

/-- An entry that is not as it was after an operation was what the operation is about. -/
theorem about_of_stored?_ne {s : Store} {op : Operation} {name id : String} {e : Entry}
    (he : s.collections.stored? name id = some e) (hne : (op.run s).2.collections.stored? name id ≠ some e) :
    (∃ payload, op = .replace name id payload) ∨ (∃ payload, op = .merge name id payload) ∨
      op = .delete name id := by
  have hrun := run_spec s op
  generalize op.run s = out at hne hrun
  cases hrun with
  | refused => exact absurd he hne
  | installed hi ids =>
    rw [Collections.stored?_putEntry] at hne
    split at hne
    · rename_i hhere
      obtain ⟨rfl, rfl⟩ := hhere
      cases hi with
      | add hp hc =>
        rw [Operation.collection, stored?_nextId] at he
        cases he
      | replace => exact Or.inl ⟨_, rfl⟩
      | merge => exact Or.inr (Or.inl ⟨_, rfl⟩)
    · exact absurd he hne
  | removed he' =>
    rw [Collections.stored?_removal] at hne
    split at hne
    · rename_i hhere
      obtain ⟨rfl, rfl⟩ := hhere
      exact Or.inr (Or.inr rfl)
    · exact absurd he hne

/-- An entry that is there after an operation and was not before is a new one. -/
theorem installs_of_stored?_none {s : Store} {op : Operation} {name id : String} {e : Entry}
    (hnone : s.collections.stored? name id = none) (he : (op.run s).2.collections.stored? name id = some e) :
    (∃ payload, op = .add name payload) ∧ Installs s op id e := by
  have hrun := run_spec s op
  generalize op.run s = out at he hrun
  cases hrun with
  | refused => exact absurd (hnone.symm.trans he) (by simp)
  | installed hi ids =>
    rw [Collections.stored?_putEntry] at he
    split at he
    · rename_i hhere
      obtain ⟨rfl, rfl⟩ := hhere
      cases he
      refine ⟨?_, hi⟩
      cases hi with
      | add => exact ⟨_, rfl⟩
      | replace hp hc hold => cases hnone.symm.trans hold
      | merge hp hc hold => cases hnone.symm.trans hold
    · cases hnone.symm.trans he
  | removed he' =>
    rw [Collections.stored?_removal] at he
    split at he
    · cases he
    · cases hnone.symm.trans he

end DocumentStore.Store
