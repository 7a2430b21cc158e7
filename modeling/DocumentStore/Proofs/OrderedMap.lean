/-
  DocumentStore.Proofs.OrderedMap — the store is read and written as a plain ordered map.

  Collections stand for a map of records under ids under names, all in order, where each record is
  as it is given out (`shelves`). A store that is seeded and goes on being given JSON is `InOrder`:
  every entry can be read and no collection has an id twice. Then
  - every read is the read of the map (`shows_shelves`);
  - a write that goes through makes of the map what its kind of operation makes of it, and it finds
    the one place that the order has for it (`Writes`, `runs_as_map`).
  What is read afterwards follows from that alone: nothing else has changed, and what the write
  answered is read until the next write to the record (`Behaves`). A write that fails has changed
  nothing, and fails as a read of its record does (`behaves_as_ordered_map`).
-/

import DocumentStore.Proofs.Effect

namespace DocumentStore

open Store (Entry Operation IdSource Clock Installs run_spec idField)

/-! ## The map -/

/-- Records under ids under names, all in order. -/
abbrev Shelves := Keyed Key (Named Record)

namespace Shelves

def all (m : Shelves) (name : Key) : Except Failure (List Record) :=
  match m.get? name with
  | none => .error (.missing (.collection name.asText))
  | some shelf => .ok (shelf.map (·.2))

def one (m : Shelves) (name : Key) (id : String) : Except Failure Record :=
  match m.get? name with
  | none => .error (.missing (.collection name.asText))
  | some shelf =>
    match shelf.get? id with
    | none => .error (.missing (.entry id))
    | some record => .ok record

def found (m : Shelves) (name : Key) (equals : Record) : Except Failure (List Record) :=
  match m.get? name with
  | none => .error (.missing (.collection name.asText))
  | some shelf => .ok ((shelf.map (·.2)).filter fun record => equals.all fun (field, expected) =>
      match record.get? field with
      | some actual => Collections.lookupSame expected actual
      | none => false)

def shelf (m : Shelves) (name : Key) : Named Record := (m.get? name).getD []

def place (m : Shelves) (name id : String) (record : Record) : Shelves :=
  m.put (.text name) (Keyed.put (m.shelf (.text name)) id record)

def take (m : Shelves) (name id : String) : Shelves :=
  m.put (.text name) (Keyed.erase (m.shelf (.text name)) id)

end Shelves

inductive Store.Operation.Changes (name id : String) : Operation → Prop
  | replace (payload : Draft) : Changes name id (.replace name id payload)
  | merge (payload : Draft) : Changes name id (.merge name id payload)

def Store.Operation.WritesTo (op : Operation) (name id : String) : Prop := op.Changes name id ∨ op = .delete name id

/-- What a write to a record that goes through with an answer makes of the map. -/
inductive Shelves.Writes (name id : String) (answer : Record) : Operation → Shelves → Shelves → Prop
  /-- The first record under a name comes with the name, behind all others. -/
  | founded {payload : Draft} {m : Shelves} (hnone : m.get? (.text name) = none) :
      Writes name id answer (.add name payload) m (m ++ [(.text name, [(id, answer)])])
  /-- Any other new record comes behind those under the name. -/
  | added {payload : Draft} {before after : Shelves} {shelf : Named Record}
      (hfirst : before.get? (.text name) = none) (hnew : id ∉ shelf.names) :
      Writes name id answer (.add name payload) (before ++ (.text name, shelf) :: after)
        (before ++ (.text name, shelf ++ [(id, answer)]) :: after)
  /-- A record that is changed stays in its place. -/
  | changed {op : Operation} (hop : op.Changes name id) {before after : Shelves} {front back : Named Record}
      {old : Record} (hfirst : before.get? (.text name) = none) (hfront : id ∉ front.names) (hback : id ∉ back.names) :
      Writes name id answer op (before ++ (.text name, front ++ (id, old) :: back) :: after)
        (before ++ (.text name, front ++ (id, answer) :: back) :: after)
  /-- A record that is deleted is taken out, and the name stays. -/
  | deleted {before after : Shelves} {front back : Named Record} {old : Record}
      (hfirst : before.get? (.text name) = none) (hfront : id ∉ front.names) (hback : id ∉ back.names) :
      Writes name id answer (.delete name id) (before ++ (.text name, front ++ (id, old) :: back) :: after)
        (before ++ (.text name, front ++ back) :: after)

namespace Shelves

variable {m m' : Shelves} {name id : String} {record answer : Record} {op : Operation}

/-! ### Every write has its place -/

/-- Where there is a name, there is one place for it. -/
theorem exists_place {shelf : Named Record} (h : m.get? (.text name) = some shelf) :
    ∃ before after : Shelves, m = before ++ (.text name, shelf) :: after ∧ before.get? (.text name) = none ∧
      ∀ shelf', m.put (.text name) shelf' = before ++ (.text name, shelf') :: after := by
  obtain ⟨before, after, hm, hbefore, hput⟩ := Keyed.exists_put (fun _ => Key.eq_of_beq_text) h
  exact ⟨before, after, hm, Keyed.get?_eq_none_of_forall hbefore, hput⟩

theorem get?_of_shelf (h : Keyed.get? (m.shelf (.text name)) id = some record) :
    m.get? (.text name) = some (m.shelf (.text name)) := by
  unfold shelf at h ⊢
  cases hm : m.get? (.text name) with
  | none =>
    rw [hm] at h
    cases h
  | some _ => rfl

theorem writes_place_new (hnew : Keyed.get? (m.shelf (.text name)) id = none) (payload : Draft) :
    Writes name id answer (.add name payload) m (m.place name id answer) := by
  unfold place
  rw [Keyed.put_of_get?_none hnew]
  unfold shelf at hnew ⊢
  cases hm : m.get? (.text name) with
  | none =>
    rw [Keyed.put_of_get?_none hm]
    exact .founded hm
  | some shelf =>
    rw [hm] at hnew
    obtain ⟨before, after, rfl, hfirst, hput⟩ := exists_place hm
    rw [hput]
    exact .added hfirst (Keyed.get?_eq_none_iff.mp hnew)

section Stored

variable (hids : (Keyed.names (m.shelf (.text name))).Nodup) (hold : Keyed.get? (m.shelf (.text name)) id = some record)

include hids hold

/-- Where there is a record, there is one place for it, where it is changed and from where it is taken. -/
theorem exists_stored_place :
    ∃ (before after : Shelves) (front back : Named Record),
      m = before ++ (.text name, front ++ (id, record) :: back) :: after ∧ before.get? (.text name) = none ∧
      id ∉ front.names ∧ id ∉ back.names ∧
      (∀ record', m.place name id record' = before ++ (.text name, front ++ (id, record') :: back) :: after) ∧
      m.take name id = before ++ (.text name, front ++ back) :: after := by
  obtain ⟨front, back, hshelf, hfront, hback, hput, herase⟩ := Keyed.exists_split hids hold
  obtain ⟨before, after, hm, hfirst, hplace⟩ := exists_place (get?_of_shelf hold)
  rw [hshelf] at hm
  refine ⟨before, after, front, back, hm, hfirst, hfront, hback, fun record' => ?_, ?_⟩
  · rw [place, hput, hplace]
  · rw [take, herase, hplace]

theorem writes_place (hop : op.Changes name id) : Writes name id answer op m (m.place name id answer) := by
  obtain ⟨before, after, front, back, hm, hfirst, hfront, hback, hplace, -⟩ := exists_stored_place hids hold
  rw [hplace, hm]
  exact .changed hop hfirst hfront hback

theorem writes_take : Writes name id answer (.delete name id) m (m.take name id) := by
  obtain ⟨before, after, front, back, hm, hfirst, hfront, hback, -, htake⟩ := exists_stored_place hids hold
  rw [htake, hm]
  exact .deleted hfirst hfront hback

end Stored

/-! ### What is read after a write -/

theorem Writes.get?_of_ne (h : Writes name id answer op m m') {other : Key} (hne : other ≠ .text name) :
    m'.get? other = m.get? other := by
  have hk := Key.text_beq_of_ne hne
  cases h with
  | founded => rw [Keyed.get?_middle_of_not_beq hk, List.append_nil]
  | _ => rw [Keyed.get?_middle_of_not_beq hk, Keyed.get?_middle_of_not_beq hk]

theorem one_middle {before : Shelves} (hfirst : before.get? (.text name) = none) (shelf : Named Record)
    (after : Shelves) (id : String) : one (before ++ (.text name, shelf) :: after) (.text name) id =
      match shelf.get? id with
      | none => .error (.missing (.entry id))
      | some record => .ok record := by
  rw [one, Keyed.get?_middle_self (Key.text_beq_self name) hfirst]

/-- Another record under the name is read as before. Where there was no such name it was missing before
because of that, and is missing now on its own account. -/
theorem Writes.one_of_ne (h : Writes name id answer op m m') {other : String} (hne : other ≠ id) :
    m'.one (.text name) other = m.one (.text name) other ∨
      m.one (.text name) other = .error (.missing (.collection name)) ∧
        m'.one (.text name) other = .error (.missing (.entry other)) := by
  have hk : (id == other) = false := beq_eq_false_iff_ne.mpr (Ne.symm hne)
  cases h with
  | founded hnone =>
    refine Or.inr ⟨by rw [one, hnone]; rfl, ?_⟩
    rw [one_middle hnone, Keyed.get?_cons, if_neg (by rw [hk]; exact Bool.false_ne_true)]
    rfl
  | added hfirst =>
    left
    rw [one_middle hfirst, one_middle hfirst, Keyed.get?_middle_of_not_beq hk, List.append_nil]
  | changed _ hfirst =>
    left
    rw [one_middle hfirst, one_middle hfirst, Keyed.get?_middle_of_not_beq hk, Keyed.get?_middle_of_not_beq hk]
  | deleted hfirst =>
    left
    rw [one_middle hfirst, one_middle hfirst, Keyed.get?_middle_of_not_beq hk]

theorem Writes.one_self (h : Writes name id answer op m m') (hop : op ≠ .delete name id) :
    m'.one (.text name) id = .ok answer := by
  have hself := beq_self_eq_true id
  cases h with
  | founded hnone => rw [one_middle hnone, Keyed.get?_cons, if_pos hself]
  | added hfirst hnew => rw [one_middle hfirst, Keyed.get?_middle_self hself (Keyed.get?_eq_none_iff.mpr hnew)]
  | changed _ hfirst hfront =>
    rw [one_middle hfirst, Keyed.get?_middle_self hself (Keyed.get?_eq_none_iff.mpr hfront)]
  | deleted => exact absurd rfl hop

theorem Writes.of_delete (h : Writes name id answer (.delete name id) m m') :
    m'.one (.text name) id = .error (.missing (.entry id)) ∧ m'.names = m.names ∧
      ∃ records, m'.all (.text name) = .ok records := by
  cases h with
  | changed hop => cases hop
  | @deleted before after front back _ hfirst hfront hback =>
    have hgone : Keyed.get? (front ++ back) id = none := by
      rw [Keyed.get?_append, Keyed.get?_eq_none_iff.mpr hfront, Keyed.get?_eq_none_iff.mpr hback]
      rfl
    refine ⟨by rw [one_middle hfirst, hgone], by simp [Keyed.names], ?_⟩
    rw [all, Keyed.get?_middle_self (Key.text_beq_self name) hfirst]
    exact ⟨_, rfl⟩

/-- A record that is read is one of all that are read together. -/
theorem exists_all_of_one (hids : (Keyed.names (m.shelf (.text name))).Nodup)
    (h : m.one (.text name) id = .ok record) :
    ∃ front back : Named Record, m.shelf (.text name) = front ++ (id, record) :: back ∧ id ∉ front.names ∧
      id ∉ back.names ∧ m.all (.text name) = .ok (front.map (·.2) ++ record :: back.map (·.2)) := by
  unfold one at h
  split at h
  · cases h
  rename_i shelf hm
  split at h
  · cases h
  rename_i found hfound
  cases h
  have hshelf : m.shelf (.text name) = shelf := by
    rw [Shelves.shelf, hm]
    rfl
  rw [hshelf] at hids ⊢
  obtain ⟨front, back, rfl, hfront, hback, -⟩ := Keyed.exists_split hids hfound
  refine ⟨front, back, rfl, hfront, hback, ?_⟩
  rw [all, hm]
  simp

end Shelves

/-! ## What the collections show -/

namespace Collections

def shelved (c : Collection) : Named Record := c.map fun f => (f.1, f.2.record.put idField (.text f.1))

def shelves (cs : Collections) : Shelves := cs.map fun f => (f.1, shelved f.2)

/-- The names of the collections and every read of them are those of the map. -/
structure Shows (cs : Collections) (m : Shelves) : Prop where
  names : cs.names = m.names
  all : ∀ name, cs.getAll name = m.all name
  one : ∀ name id, cs.getOne name id = m.one name id
  found : ∀ name equals, cs.findExact name equals = m.found name equals

section Shelves

variable {cs : Collections} {name id : String} {e : Entry}

theorem get?_shelves (cs : Collections) (name : Key) : Keyed.get? cs.shelves name = (cs.get? name).map shelved :=
  Keyed.get?_map (g := fun _ c => shelved c) (fun _ _ => rfl) cs

theorem get?_shelved (c : Collection) (id : String) :
    Keyed.get? (shelved c) id = (c.get? id).map fun e => e.record.put idField (.text id) :=
  Keyed.get?_map (g := fun id e => Keyed.put (Entry.record e) idField (.text id)) (fun _ h => by rw [eq_of_beq h]) c

theorem shelf_shelves (cs : Collections) (name : Key) : cs.shelves.shelf name = shelved (cs.named name) := by
  unfold Shelves.shelf named
  rw [get?_shelves]
  cases cs.get? name <;> rfl

theorem names_shelved (c : Collection) : Keyed.names (shelved c) = Keyed.names c := by
  simp [Keyed.names, shelved]

/-- Every record on a shelf shows the id that it stands under. -/
theorem get?_id_of_mem_shelved {c : Collection} {f : String × Record} (h : f ∈ shelved c) :
    Keyed.get? f.2 idField = some (.text f.1) := by
  obtain ⟨g, -, rfl⟩ := List.mem_map.mp h
  exact Keyed.get?_put_self _ (beq_self_eq_true idField) _

theorem readEntries_shelved {c : Collection} (h : ∀ f ∈ c, f.2.foreign = none) :
    readEntries c = .ok ((shelved c).map (·.2)) := by
  rw [Store.readEntries_of_readable h, shelved, List.map_map]
  rfl

/-- Collections of which every entry can be read show the map they stand for. -/
theorem shows_shelves (h : cs.Readable) : cs.Shows cs.shelves where
  names := by simp [Keyed.names, shelves]
  all name := by
    unfold getAll collection Shelves.all
    rw [get?_shelves]
    cases hc : cs.get? name with
    | none => rfl
    | some c => exact readEntries_shelved (h.each.of_get? hc)
  one name id := by
    unfold getOne entry collection Shelves.one
    rw [get?_shelves]
    cases hc : cs.get? name with
    | none => rfl
    | some c =>
      dsimp only [Option.map_some]
      rw [get?_shelved]
      cases he : c.get? id with
      | none => rfl
      | some e => exact Entry.read_of_foreign (h.each.of_get? hc (id, e) (Keyed.mem_of_get? he)) id
  found name equals := by
    unfold findExact collection Shelves.found
    rw [get?_shelves]
    cases hc : cs.get? name with
    | none => rfl
    | some c =>
      dsimp only [Option.map_some]
      rw [readEntries_shelved fun f hf => h.each.of_get? hc f (List.mem_filter.mp hf).1, shelved, shelved, List.map_map,
        List.map_map, List.filter_map]
      rfl

theorem shelves_put (cs : Collections) (name : String) (c : Collection) :
    shelves (cs.put (.text name) c) = cs.shelves.put (.text name) (shelved c) :=
  (Keyed.put_map (g := fun _ c => shelved c) (fun _ _ => rfl) cs c).symm

/-- An entry that is put in its place puts its record in the map. -/
theorem shelves_putEntry (s : Store) (name id : String) (e : Entry) (ids : IdSource) (clock : Clock) :
    (s.putEntry name id e ids clock).collections.shelves =
      s.collections.shelves.place name id (e.record.put idField (.text id)) := by
  have hput : shelved (Keyed.put (s.collections.named name) id e) =
      Keyed.put (shelved (s.collections.named name)) id (e.record.put idField (.text id)) :=
    (Keyed.put_map (g := fun id e => Keyed.put (Entry.record e) idField (.text id))
      (fun _ h => by rw [eq_of_beq h]) _ e).symm
  rw [Store.putEntry, Shelves.place, shelf_shelves, ← hput]
  exact shelves_put _ _ _

theorem shelves_removal (cs : Collections) (name id : String) :
    shelves (cs.put (.text name) (Keyed.erase (cs.named name) id)) = cs.shelves.take name id := by
  have herase : shelved (Keyed.erase (cs.named name) id) = Keyed.erase (shelved (cs.named name)) id := by
    rw [shelved, shelved, Keyed.erase, Keyed.erase, List.filter_map]
    rfl
  rw [Shelves.take, shelf_shelves, ← herase]
  exact shelves_put _ _ _

theorem get?_shelf_shelves (cs : Collections) (name : Key) (id : String) :
    Keyed.get? (cs.shelves.shelf name) id = (cs.stored? name id).map fun e => e.record.put idField (.text id) := by
  rw [shelf_shelves, get?_shelved, stored?]

end Shelves

structure ReadsAs (cs : Collections) (name id : String) (record : Record) : Prop where
  one : cs.getOne name id = .ok record
  shown : record.get? idField = some (.text id)
  all : ∃ front back : List Record, cs.getAll name = .ok (front ++ record :: back) ∧
    ∀ other ∈ front ++ back, other.get? idField ≠ some (.text id)

end Collections

namespace Store

/-! ## One write -/

/-- What reads and writes need: every entry can be read, and no collection has an id twice. -/
structure InOrder (s : Store) : Prop where
  readable : s.collections.Readable
  distinct : s.collections.Distinct

theorem run_distinct {s : Store} (h : s.collections.Distinct) (op : Operation) :
    (op.run s).2.collections.Distinct := by
  have hrun := run_spec s op
  generalize op.run s = out at hrun
  cases hrun with
  | refused => exact h
  | installed hi ids => exact (Collections.differsIn_put _ _ _).distinct h fun hc => Keyed.nodup_names_put hc _ _
  | removed he =>
    exact (Collections.differsIn_put _ _ _).distinct h fun hc => hc.sublist (List.Sublist.map _ List.filter_sublist)

theorem InOrder.run {s : Store} (h : s.InOrder) {op : Operation} (hj : op.IsJson) : (op.run s).2.InOrder where
  readable := run_each h.readable.each (Installs.readable hj)
  distinct := run_distinct h.distinct op

theorem InOrder.after {s : Store} (h : s.InOrder) {ops : List Operation} (hj : ∀ op ∈ ops, op.IsJson) :
    (s.after ops).InOrder := by
  induction ops generalizing s with
  | nil => exact h
  | cons op rest ih => exact ih (h.run (hj op List.mem_cons_self)) fun o ho => hj o (List.mem_cons_of_mem op ho)

theorem inOrder_ofSeed {seed : Draft} {cs : Collections} (h : Collections.ofSeed seed = .ok cs) (ids : IdSource)
    (clock : Clock) : InOrder ⟨cs, ids, clock⟩ where
  readable := Collections.each_ofSeed (P := fun e => e.foreign = none) (fun _ _ _ _ _ _ => rfl) h
  distinct := Collections.distinct_ofSeed h

section Runs

variable {s : Store} {op : Operation} {name id : String} {answer : Record} {e : Entry} {f : Failure}

theorem InOrder.shelf_nodup (h : s.InOrder) (name : Key) :
    (Keyed.names (s.collections.shelves.shelf name)).Nodup := by
  rw [Collections.shelf_shelves, Collections.names_shelved]
  exact Collections.named_distinct h.distinct name

theorem get?_shelf_of_stored? {name : Key} (he : s.collections.stored? name id = some e) :
    Keyed.get? (s.collections.shelves.shelf name) id = some (e.record.put idField (.text id)) := by
  rw [Collections.get?_shelf_shelves, he]
  rfl

/-- What an operation installs it writes into the map. -/
theorem Installs.writes (h : s.InOrder) (hi : Installs s op id e) (answer : Record) :
    Shelves.Writes op.collection id answer op s.collections.shelves
      (s.collections.shelves.place op.collection id answer) := by
  cases hi with
  | add =>
    refine Shelves.writes_place_new ?_ _
    rw [Operation.collection, Collections.get?_shelf_shelves, stored?_nextId]
    rfl
  | replace hp hc he => exact Shelves.writes_place (h.shelf_nodup _) (get?_shelf_of_stored? he) (.replace _)
  | merge hp hc he hf => exact Shelves.writes_place (h.shelf_nodup _) (get?_shelf_of_stored? he) (.merge _)

theorem runs_as_map (h : s.InOrder) (hok : (op.run s).1 = .ok answer) :
    ∃ id, Shelves.Writes op.collection id answer op s.collections.shelves (op.run s).2.collections.shelves := by
  have hrun := run_spec s op
  generalize op.run s = out at hok hrun
  cases hrun with
  | refused => cases hok
  | @installed _ id e hi ids =>
    obtain ⟨-, rfl⟩ := Entry.read_eq_ok hok
    refine ⟨id, ?_⟩
    rw [Collections.shelves_putEntry]
    exact hi.writes h _
  | @removed name id e he =>
    refine ⟨id, ?_⟩
    dsimp only [Operation.collection]
    rw [Collections.shelves_removal]
    exact Shelves.writes_take (h.shelf_nodup _) (get?_shelf_of_stored? he)

/-- An operation on a JSON object that fails has changed nothing. -/
theorem run_of_error (hj : op.IsJson) (herror : (op.run s).1 = .error f) : (op.run s).2 = s := by
  have hrun := run_spec s op
  generalize op.run s = out at herror hrun
  cases hrun with
  | refused => rfl
  | installed hi ids =>
    rw [Entry.read_of_foreign (hi.readable hj)] at herror
    cases herror
  | removed => cases herror

theorem Installs.ne_error (hj : op.IsJson) (hi : Installs s op id e) : (op.run s).1 ≠ .error f := by
  obtain ⟨ids, hrun⟩ := hi.run_eq
  rw [hrun, Entry.read_of_foreign (hi.readable hj)]
  rintro ⟨⟩

/-- It has failed because the record that it was to write to cannot be found. -/
theorem InOrder.missing_of_error (h : s.InOrder) (hj : op.IsJson) (herror : (op.run s).1 = .error f) :
    ∃ id, op.WritesTo op.collection id ∧ s.collections.getOne op.collection id = .error f := by
  cases op with
  | add name payload =>
    obtain ⟨body, rfl⟩ := hj
    obtain ⟨record, hcreate⟩ := Entry.create_ofMembers body
    exact absurd herror (Installs.ne_error ⟨body, rfl⟩ (.add rfl hcreate))
  | replace name id payload =>
    obtain ⟨body, rfl⟩ := hj
    have hchanges := Entry.ofPayload_ofMembers body
    cases hentry : s.collections.entry name id with
    | ok e =>
      have he := Collections.entry_eq_ok_iff.mp hentry
      exact absurd herror (Installs.ne_error ⟨body, rfl⟩ (.replace rfl hchanges he))
    | error f' =>
      simp only [Operation.run, Store.replace, Draft.ofValue, Draft.members?, hchanges, hentry] at herror
      cases herror
      exact ⟨id, Or.inl (.replace _), Collections.getOne_of_entry_error hentry⟩
  | merge name id payload =>
    obtain ⟨body, rfl⟩ := hj
    have hchanges := Entry.ofPayload_ofMembers body
    cases hentry : s.collections.entry name id with
    | ok e =>
      have he := Collections.entry_eq_ok_iff.mp hentry
      have hf : e.foreign = none := h.readable.each.named name (id, e) (Keyed.mem_of_get? he)
      exact absurd herror (Installs.ne_error ⟨body, rfl⟩ (.merge rfl hchanges he hf))
    | error f' =>
      simp only [Operation.run, Store.merge, Draft.ofValue, Draft.members?, hchanges, hentry] at herror
      cases herror
      exact ⟨id, Or.inl (.merge _), Collections.getOne_of_entry_error hentry⟩
  | delete name id =>
    simp only [Operation.run, Store.delete] at herror
    split at herror
    · rename_i hentry
      cases herror
      exact ⟨id, Or.inr rfl, Collections.getOne_of_entry_error hentry⟩
    · cases herror

theorem readsAs_of_getOne (h : s.InOrder) (hone : s.collections.getOne name id = .ok answer) :
    s.collections.ReadsAs name id answer := by
  have hshows := Collections.shows_shelves h.readable
  obtain ⟨front, back, hshelf, hfront, hback, hall⟩ :=
    Shelves.exists_all_of_one (h.shelf_nodup name) ((hshows.one name id).symm.trans hone)
  have hshown : ∀ f ∈ front ++ (id, answer) :: back, Keyed.get? f.2 idField = some (.text f.1) := by
    intro f hf
    rw [← hshelf, Collections.shelf_shelves] at hf
    exact Collections.get?_id_of_mem_shelved hf
  refine ⟨hone, hshown _ (List.mem_append_right _ List.mem_cons_self), _, _, (hshows.all name).trans hall, ?_⟩
  intro other hm hid
  rw [← List.map_append] at hm
  obtain ⟨f, hf, rfl⟩ := List.mem_map.mp hm
  have hmem : f ∈ front ++ (id, answer) :: back := by
    rcases List.mem_append.mp hf with hf | hf
    · exact List.mem_append_left _ hf
    · exact List.mem_append_right _ (List.mem_cons_of_mem _ hf)
  rw [hshown f hmem] at hid
  cases hid
  rcases List.mem_append.mp hf with hf | hf
  · exact hfront (List.mem_map_of_mem hf)
  · exact hback (List.mem_map_of_mem hf)

end Runs

/-! ## Until the next write -/

/-- Of the operations, one after the other, none is a write to the record that goes through. -/
def Quiet (name id : String) (s : Store) : List Operation → Prop
  | [] => True
  | op :: rest =>
    (op.WritesTo name id → ∀ answer, (op.run s).1 ≠ .ok answer) ∧ Quiet name id (op.run s).2 rest

section Quiet

variable {s : Store} {op : Operation} {name id : String} {e : Entry}

theorem stored?_of_quiet {ops : List Operation} (he : s.collections.stored? name id = some e)
    (hj : ∀ op ∈ ops, op.IsJson) (hq : Quiet name id s ops) : (s.after ops).collections.stored? name id = some e := by
  induction ops generalizing s with
  | nil => exact he
  | cons op rest ih =>
    obtain ⟨hop, hrest⟩ := hq
    refine ih ?_ (fun o ho => hj o (List.mem_cons_of_mem op ho)) hrest
    by_contra hne
    dsimp only at hne
    have hwrites : op.WritesTo name id := by
      rcases about_of_stored?_ne he hne with ⟨payload, rfl⟩ | ⟨payload, rfl⟩ | rfl
      · exact Or.inl (.replace payload)
      · exact Or.inl (.merge payload)
      · exact Or.inr rfl
    cases hout : (op.run s).1 with
    | ok answer => exact hop hwrites answer hout
    | error f =>
      rw [run_of_error (hj op List.mem_cons_self) hout] at hne
      exact hne he

theorem getOne_of_quiet {ops : List Operation} {record : Record} (hone : s.collections.getOne name id = .ok record)
    (hj : ∀ op ∈ ops, op.IsJson) (hq : Quiet name id s ops) :
    (s.after ops).collections.getOne name id = .ok record := by
  obtain ⟨e, he, hread⟩ := Collections.getOne_eq_ok_iff.mp hone
  exact Collections.getOne_eq_ok_iff.mpr ⟨e, stored?_of_quiet he hj hq, hread⟩

end Quiet

/-! ## The store as a map -/

structure Behaves (s : Store) (op : Operation) (id : String) (answer : Record) : Prop where
  before : s.collections.Shows s.collections.shelves
  after : (op.run s).2.collections.Shows (op.run s).2.collections.shelves
  writes : Shelves.Writes op.collection id answer op s.collections.shelves (op.run s).2.collections.shelves
  /-- All other collections are read as before. -/
  elsewhere : ∀ name : Key, name ≠ .text op.collection →
    (op.run s).2.collections.getAll name = s.collections.getAll name ∧
      (∀ id', (op.run s).2.collections.getOne name id' = s.collections.getOne name id') ∧
        ∀ equals, (op.run s).2.collections.findExact name equals = s.collections.findExact name equals
  /-- All other records of the collection are read as before; if the collection is new there are none. -/
  others : ∀ id', id' ≠ id →
    (op.run s).2.collections.getOne op.collection id' = s.collections.getOne op.collection id' ∨
      s.collections.getOne op.collection id' = .error (.missing (.collection op.collection)) ∧
        (op.run s).2.collections.getOne op.collection id' = .error (.missing (.entry id'))
  /-- A record that was deleted is missing, and its collection is not. -/
  deleted : op = .delete op.collection id →
    (op.run s).2.collections.getOne op.collection id = .error (.missing (.entry id)) ∧
      (op.run s).2.collections.names = s.collections.names ∧
        ∃ records, (op.run s).2.collections.getAll op.collection = .ok records
  /-- Else the answer is read until the next write to the record. -/
  kept : op ≠ .delete op.collection id → ∀ future : List Operation, (∀ o ∈ future, o.IsJson) →
    Quiet op.collection id (op.run s).2 future →
      ((op.run s).2.after future).collections.ReadsAs op.collection id answer

theorem InOrder.behaves {s : Store} (h : s.InOrder) {op : Operation} (hj : op.IsJson) {answer : Record}
    (hok : (op.run s).1 = .ok answer) : ∃ id, s.Behaves op id answer := by
  obtain ⟨id, hwrites⟩ := runs_as_map h hok
  have hafter := h.run hj
  have hshows := Collections.shows_shelves h.readable
  have hshows' := Collections.shows_shelves hafter.readable
  refine ⟨id, hshows, hshows', hwrites, fun name hne => ?_, fun id' hne => ?_, fun hdel => ?_,
    fun hdel future hfuture hq => ?_⟩
  · have hget := hwrites.get?_of_ne hne
    simp only [hshows.all, hshows'.all, hshows.one, hshows'.one, hshows.found, hshows'.found, Shelves.all, Shelves.one,
      Shelves.found, hget, implies_true, and_self]
  · rw [hshows.one, hshows'.one]
    exact hwrites.one_of_ne hne
  · rw [hshows'.one, hshows'.names, hshows.names, hshows'.all]
    rw [hdel] at hwrites
    rw [hdel]
    exact hwrites.of_delete
  · have hone : (op.run s).2.collections.getOne op.collection id = .ok answer :=
      (hshows'.one _ _).trans (hwrites.one_self hdel)
    exact readsAs_of_getOne (hafter.after hfuture) (getOne_of_quiet hone hfuture hq)

/-- However a store that was seeded came to where it is by being given JSON, and whatever its ids and
its clock are: an operation on a JSON object is one on a plain ordered map. Either it goes through, or the
record that it would write to cannot be read and nothing changes. -/
theorem behaves_as_ordered_map {seed : Draft} {cs : Collections} (hseed : Collections.ofSeed seed = .ok cs)
    (ids : IdSource) (clock : Clock) {past : List Operation} (hpast : ∀ op ∈ past, op.IsJson) {op : Operation}
    (hop : op.IsJson) :
    let s := (Store.mk cs ids clock).after past
    match (op.run s).1 with
    | .ok answer => ∃ id, s.Behaves op id answer
    | .error f =>
      (op.run s).2 = s ∧ ∃ id, op.WritesTo op.collection id ∧ s.collections.getOne op.collection id = .error f := by
  intro s
  have horder : s.InOrder := (inOrder_ofSeed hseed ids clock).after hpast
  cases hout : (op.run s).1 with
  | ok answer => exact horder.behaves hop hout
  | error f => exact ⟨run_of_error hop hout, horder.missing_of_error hop hout⟩

/-! ### A second book -/

def addEmma : Operation := .add "books" (.ofValue (.object [("title", .text "Emma"), ("_id", .text "b9")]))

def emma : Record := [("title", .text "Emma"), ("_createdOn", .int 3), ("_id", .text "b2")]

/-- The new book comes behind the old one, which is read as before, and is read as it was answered even
after the old one has been changed once more. -/
theorem behaves_as_ordered_map_added :
    let s := (Store.mk ownedBooks (.numbered ["b1", "b2"]) (.ofReadings 3 [])).after [forgery]
    let s' := (addEmma.run s).2
    Collections.ofSeed ownedSeed = .ok ownedBooks ∧ (∀ op ∈ [forgery], op.IsJson) ∧ addEmma.IsJson ∧
      (addEmma.run s).1 = .ok emma ∧ s'.collections.getOne "books" "b1" = s.collections.getOne "books" "b1" ∧
      (∃ old, s.collections.getAll "books" = .ok [old] ∧ s'.collections.getAll "books" = .ok [old, emma]) ∧
      (s'.after [forgery]).collections.ReadsAs "books" "b2" emma := by
  intro s s'
  have hj : ∀ op ∈ [forgery], op.IsJson := fun op h => List.mem_singleton.mp h ▸ ⟨_, rfl⟩
  have hadd : addEmma.IsJson := ⟨_, rfl⟩
  have hok : (addEmma.run s).1 = .ok emma := rfl
  obtain ⟨id, h⟩ : ∃ id, s.Behaves addEmma id emma :=
    behaves_as_ordered_map (rfl : Collections.ofSeed ownedSeed = .ok ownedBooks) _ _ hj hadd
  have hkept := h.kept Operation.noConfusion
  obtain rfl : "b2" = id := by
    cases (hkept [] (fun _ ho => absurd ho List.not_mem_nil) trivial).shown
    rfl
  have hquiet : Quiet "books" "b2" s' [forgery] := by
    refine ⟨fun hwrites => ?_, trivial⟩
    generalize hop : forgery = op at hwrites
    rcases hwrites with ⟨⟨payload⟩ | ⟨payload⟩⟩ | rfl
    · exact absurd (Operation.replace.inj hop).2.1 (by decide)
    · cases hop
    · cases hop
  refine ⟨rfl, hj, hadd, hok, ?_, ⟨_, rfl, rfl⟩, hkept _ hj hquiet⟩
  rcases h.others "b1" (by decide) with hsame | ⟨hmissing, -⟩
  · exact hsame
  · cases hmissing

end Store

end DocumentStore
