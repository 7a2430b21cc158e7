/-
  DocumentStore.Proofs.Collections — what is read from collections.

  One record is read from the entry under its id (`getOne_eq_ok`, `getOne_of_entry`), which is
  the entry put there last; putting or removing one leaves those under other names and ids as
  they are (`stored?_putEntry`, `stored?_removal`). All records of a collection are those read one by
  one under its ids (`getAll_eq_ok_iff`). What every record of a seed has, every entry has that comes
  of them (`each_ofSeed`). Where one entry comes in (`Gains`) or goes (`Loses`), the rest stays in its
  order. A collection `Holds` whatever can be read from one of its entries, and nothing else is read
  from it (`holds_of_getOne`, `holds_of_getAll`).
-/

import DocumentStore.Proofs.Entry
import DocumentStore.Proofs.Result
import DocumentStore.Store.Basic

namespace DocumentStore

open Store (Entry IdSource Clock)

namespace Collections

variable {cs : Collections} {name : Key} {id : String} {record : Record}

theorem collection_eq_ok {c : Collection} (h : cs.collection name = .ok c) : cs.get? name = some c := by
  unfold collection at h
  split at h
  · cases h
    assumption
  · cases h

theorem entry_eq_ok {e : Entry} (h : cs.entry name id = .ok e) :
    ∃ c, cs.get? name = some c ∧ (id, e) ∈ c := by
  unfold entry at h
  split at h
  · cases h
  rename_i c hc
  split at h
  · rename_i found hfound
    cases h
    exact ⟨c, collection_eq_ok hc, Keyed.mem_of_get? hfound⟩
  · cases h

theorem getOne_eq_ok (h : cs.getOne name id = .ok record) :
    ∃ e, cs.entry name id = .ok e ∧ e.read id = .ok record := by
  unfold getOne at h
  split at h
  · cases h
  · rename_i e he
    exact ⟨e, he, h⟩

theorem getOne_of_entry {e : Entry} (h : cs.entry name id = .ok e) : cs.getOne name id = e.read id := by
  simp only [getOne, h]

theorem getOne_of_entry_error {f : Failure} (h : cs.entry name id = .error f) : cs.getOne name id = .error f := by
  simp only [getOne, h]

/-! ## Entries by name and id -/

def named (cs : Collections) (name : Key) : Collection := (cs.get? name).getD []

def stored? (cs : Collections) (name : Key) (id : String) : Option Entry := (cs.named name).get? id

theorem entry_eq_ok_iff {e : Entry} : cs.entry name id = .ok e ↔ cs.stored? name id = some e := by
  unfold entry collection stored? named
  cases hc : cs.get? name with
  | none => simp [Keyed.get?]
  | some c =>
    cases he : c.get? id with
    | none => simp [he]
    | some found => simp [he]

theorem getOne_eq_ok_iff :
    cs.getOne name id = .ok record ↔ ∃ e, cs.stored? name id = some e ∧ e.read id = .ok record := by
  constructor
  · intro h
    obtain ⟨e, he, hread⟩ := getOne_eq_ok h
    exact ⟨e, entry_eq_ok_iff.mp he, hread⟩
  · rintro ⟨e, he, hread⟩
    rw [getOne_of_entry (entry_eq_ok_iff.mpr he), hread]

theorem named_put_self (cs : Collections) (name : String) (c : Collection) :
    named (cs.put (.text name) c) (.text name) = c := by
  rw [named, Keyed.get?_put_self cs (Key.text_beq_self name)]
  rfl

theorem named_put (cs : Collections) (name other : String) (c : Collection) :
    named (cs.put (.text name) c) (.text other) = if other = name then c else cs.named (.text other) := by
  split
  · rename_i h
    rw [h, named_put_self]
  · rename_i h
    rw [named, Key.get?_put_of_ne cs (mt Key.text.inj h)]
    rfl

/-- Another collection under a name touches no entry under another name. -/
theorem stored?_put (cs : Collections) (name name' id' : String) (c : Collection) :
    stored? (cs.put (.text name) c) (.text name') id' =
      if name' = name then c.get? id' else cs.stored? (.text name') id' := by
  rw [stored?, named_put]
  split <;> rfl

theorem stored?_putEntry (s : Store) (name id : String) (e : Entry) (ids : IdSource) (clock : Clock)
    (name' id' : String) :
    (s.putEntry name id e ids clock).collections.stored? name' id' =
      if name' = name ∧ id' = id then some e else s.collections.stored? name' id' := by
  rw [Store.putEntry, stored?_put]
  by_cases hn : name' = name
  · subst hn
    by_cases hi : id' = id
    · subst hi
      simp [Keyed.get?_put_self _ (beq_self_eq_true id')]
    · simp [hi, Keyed.get?_put_of_ne _ hi, stored?, named]
  · simp [hn]

theorem entry_putEntry (s : Store) (name id : String) (e : Entry) (ids : IdSource) (clock : Clock) :
    (s.putEntry name id e ids clock).collections.entry name id = .ok e :=
  entry_eq_ok_iff.mpr (by rw [stored?_putEntry, if_pos ⟨rfl, rfl⟩])

theorem stored?_removal (cs : Collections) (name id name' id' : String) :
    stored? (cs.put (.text name) ((cs.named name).erase id)) (.text name') id' =
      if name' = name ∧ id' = id then none else cs.stored? (.text name') id' := by
  rw [stored?_put]
  by_cases hn : name' = name
  · subst hn
    by_cases hi : id' = id
    · subst hi
      simp
    · simp [hi, Keyed.get?_erase_of_ne _ hi, stored?]
  · simp [hn]

theorem mem_named_iff {f : String × Entry} (hn : (Keyed.names (cs.named name)).Nodup) :
    f ∈ cs.named name ↔ cs.stored? name f.1 = some f.2 :=
  ⟨Keyed.get?_of_mem hn, Keyed.mem_of_get?⟩

/-! ## What every entry has -/

def Each (P : Entry → Prop) (cs : Collections) : Prop := ∀ c ∈ cs, ∀ f ∈ c.2, P f.2

section Each

variable {P : Entry → Prop}

theorem Each.of_get? (h : cs.Each P) {c : Collection} (hc : cs.get? name = some c) : ∀ f ∈ c, P f.2 :=
  Keyed.forall_of_get? (P := fun c : Collection => ∀ f ∈ c, P f.2) h hc

theorem Each.named (h : cs.Each P) (name : Key) : ∀ f ∈ cs.named name, P f.2 := by
  unfold Collections.named
  cases hc : cs.get? name with
  | none => exact fun f hf => absurd hf List.not_mem_nil
  | some c => exact h.of_get? hc

theorem each_seedInto {c c' : Collection} {records : Draft.Members} (hc : ∀ f ∈ c, P f.2)
    (hr : ∀ r ∈ records, ∀ record : Record, r.2.checkRecord = .ok record → P (Entry.ofRecord record))
    (h : seedInto c records = .ok c') : ∀ f ∈ c', P f.2 := by
  induction records generalizing c with
  | nil =>
    cases h
    exact hc
  | cons r rest ih =>
    unfold seedInto at h
    split at h
    · cases h
    rename_i record hrecord
    split at h
    · cases h
    · exact ih (Keyed.forall_put hc (hr r List.mem_cons_self record hrecord))
        (fun f hf => hr f (List.mem_cons_of_mem r hf)) h

theorem each_seedAll {members : Draft.Members}
    (hm : ∀ c ∈ members, ∀ r ∈ c.2.members?.getD [], ∀ record : Record,
      r.2.checkRecord = .ok record → P (Entry.ofRecord record))
    (h : seedAll members = .ok cs) : cs.Each P := by
  induction members generalizing cs with
  | nil =>
    cases h
    exact fun c hc => absurd hc List.not_mem_nil
  | cons m rest ih =>
    unfold seedAll at h
    split at h
    · cases h
    · rename_i c hc
      obtain ⟨others, ho, rfl⟩ := Result.map_eq_ok.mp h
      have hhead := each_seedInto (fun f hf => absurd hf List.not_mem_nil) (hm m List.mem_cons_self) hc
      have hrest := ih (fun c hc => hm c (List.mem_cons_of_mem m hc)) ho
      intro d hd
      rcases List.mem_cons.mp hd with rfl | hd
      · exact hhead
      · exact hrest d hd

/-- What the records of a seed have, the entries have that come of them. -/
theorem each_ofSeed {seed : Draft}
    (hs : ∀ c ∈ seed.members?.getD [], ∀ r ∈ c.2.members?.getD [], ∀ record : Record,
      r.2.checkRecord = .ok record → P (Entry.ofRecord record))
    (h : ofSeed seed = .ok cs) : cs.Each P :=
  each_seedAll hs h

end Each

def Readable (cs : Collections) : Prop := ∀ c ∈ cs, ∀ e ∈ c.2, e.2.foreign = none

theorem Readable.each (h : cs.Readable) : cs.Each fun e => e.foreign = none := h

/-! ## One entry more, and one less -/

/-- The second collections are the first with one entry more, which comes last under a new id. -/
structure Gains (cs cs' : Collections) (name id : String) (e : Entry) : Prop where
  fresh : cs.stored? name id = none
  here : cs'.named name = cs.named name ++ [(id, e)]
  elsewhere : ∀ other : String, other ≠ name → cs'.named other = cs.named other

section Gains

variable {cs' : Collections} {name id : String} {e e' : Entry} {s : Store}

theorem gains_putEntry (h : s.collections.stored? name id = none) (e : Entry) (ids : IdSource) (clock : Clock) :
    s.collections.Gains (s.putEntry name id e ids clock).collections name id e where
  fresh := h
  here := by
    rw [Store.putEntry, named_put_self]
    exact Keyed.put_of_get?_none h e
  elsewhere other hne := by rw [Store.putEntry, named_put, if_neg hne]

/-- An entry put in the place of the one that is gained is gained instead. -/
theorem Gains.putEntry (h : cs.Gains s.collections name id e) (e' : Entry) (ids : IdSource) (clock : Clock) :
    cs.Gains (s.putEntry name id e' ids clock).collections name id e' where
  fresh := h.fresh
  here := by
    have hput := Keyed.put_append h.fresh [(id, e)] e'
    rw [← h.here] at hput
    rw [Store.putEntry, named_put_self]
    refine hput.trans ?_
    rw [Keyed.put, if_pos (beq_self_eq_true id)]
  elsewhere other hne := by rw [Store.putEntry, named_put, if_neg hne, h.elsewhere other hne]

theorem Gains.stored?_self (h : cs.Gains cs' name id e) : cs'.stored? name id = some e := by
  rw [stored?, h.here, Keyed.get?_append, show (cs.named name).get? id = none from h.fresh, Option.none_or,
    Keyed.get?_cons, if_pos (beq_self_eq_true id)]

/-- What is stored stays so. -/
theorem Gains.stored?_of_some (h : cs.Gains cs' name id e) {other id' : String}
    (hs : cs.stored? other id' = some e') : cs'.stored? other id' = some e' := by
  by_cases hne : other = name
  · subst hne
    rw [stored?, h.here, Keyed.get?_append, show (cs.named other).get? id' = some e' from hs, Option.some_or]
  · rw [stored?, h.elsewhere other hne]
    exact hs

theorem Gains.getOne_of_ok (h : cs.Gains cs' name id e) {other id' : String} (hr : cs.getOne other id' = .ok record) :
    cs'.getOne other id' = .ok record := by
  obtain ⟨e', he, hread⟩ := getOne_eq_ok_iff.mp hr
  exact getOne_eq_ok_iff.mpr ⟨e', h.stored?_of_some he, hread⟩

theorem Gains.names_nodup (h : cs.Gains cs' name id e) {other : String}
    (hn : (Keyed.names (cs.named other)).Nodup) : (Keyed.names (cs'.named other)).Nodup := by
  by_cases hne : other = name
  · subst hne
    have hput := Keyed.nodup_names_put hn id e
    rwa [Keyed.put_of_get?_none h.fresh, ← h.here] at hput
  · rwa [h.elsewhere other hne]

end Gains

structure Loses (cs cs' : Collections) (name id : String) : Prop where
  there : ∃ e, cs.stored? name id = some e
  here : cs'.named name = (cs.named name).erase id
  elsewhere : ∀ other : String, other ≠ name → cs'.named other = cs.named other

theorem loses_of_delete {s s' : Store} {name id : String} {answer : Record}
    (h : s.delete name id = (.ok answer, s')) : s.collections.Loses s'.collections name id := by
  unfold Store.delete at h
  split at h
  · cases h
  · rename_i e he
    cases h
    exact ⟨⟨e, entry_eq_ok_iff.mp he⟩, named_put_self _ _ _, fun other hne => by rw [named_put, if_neg hne]⟩

theorem Loses.names_nodup {cs' : Collections} {name id : String} (h : cs.Loses cs' name id) {other : String}
    (hn : (Keyed.names (cs.named other)).Nodup) : (Keyed.names (cs'.named other)).Nodup := by
  by_cases hne : other = name
  · subst hne
    rw [h.here]
    exact hn.sublist (List.Sublist.map _ List.filter_sublist)
  · rwa [h.elsewhere other hne]

/-- What is stored elsewhere stays so. -/
theorem Loses.getOne_iff {cs' : Collections} {name id : String} (h : cs.Loses cs' name id) {other id' : String}
    (hne : other ≠ name) : cs'.getOne other id' = .ok record ↔ cs.getOne other id' = .ok record := by
  rw [getOne_eq_ok_iff, getOne_eq_ok_iff, stored?, stored?, h.elsewhere other hne]

/-! ## Stored records -/

def Holds (cs : Collections) (name : Key) (record : Record) : Prop :=
  ∃ c id e, cs.get? name = some c ∧ (id, e) ∈ c ∧ Entry.read e id = .ok record

theorem holds_of_getOne (h : cs.getOne name id = .ok record) : cs.Holds name record := by
  obtain ⟨e, he, hread⟩ := getOne_eq_ok h
  obtain ⟨c, hc, hm⟩ := entry_eq_ok he
  exact ⟨c, id, e, hc, hm, hread⟩

theorem readEntries_cons (f : String × Entry) (rest : Collection) :
    readEntries (f :: rest) = (Entry.read f.2 f.1).bind fun record => (readEntries rest).map (record :: ·) := by
  rw [readEntries]
  cases Entry.read f.2 f.1 <;> rfl

theorem readEntries_eq_ok_iff {c : Collection} {records : List Record} :
    readEntries c = .ok records ↔ List.Forall₂ (fun f record => Entry.read f.2 f.1 = .ok record) c records :=
  Result.collect_eq_ok_iff readEntries (fun f => Entry.read f.2 f.1) rfl readEntries_cons

/-- Entries fail to be read by one that has a mark. -/
theorem readEntries_eq_error {c : Collection} {f : Failure} (h : readEntries c = .error f) :
    ∃ kind, f = .value (.draft (.name kind)) := by
  obtain ⟨entry, -, hread⟩ :=
    Result.exists_of_collect_error readEntries (fun f => Entry.read f.2 f.1) rfl readEntries_cons h
  obtain ⟨kind, -, hf⟩ := Entry.read_eq_error hread
  exact ⟨kind, hf⟩

/-- The records of a collection are, in its order, those that are read one by one under its ids. -/
theorem getAll_eq_ok_iff {c : Collection} {records : List Record} (hc : cs.get? name = some c)
    (hids : (Keyed.names c).Nodup) :
    cs.getAll name = .ok records ↔
      List.Forall₂ (fun id record => cs.getOne name id = .ok record) (Keyed.names c) records := by
  have hall : cs.getAll name = readEntries c := by simp only [getAll, collection, hc]
  have hone : ∀ f ∈ c, cs.getOne name f.1 = Entry.read f.2 f.1 := fun f hf => by
    simp only [getOne, entry, collection, hc, Keyed.get?_of_mem hids hf]
  rw [hall, readEntries_eq_ok_iff, Keyed.names, List.forall₂_map_left_iff]
  exact Result.forall₂_congr_of_mem fun f hf record => by rw [hone f hf]

theorem mem_readEntries {c : Collection} {records : List Record} (h : readEntries c = .ok records)
    (hm : record ∈ records) : ∃ id e, (id, e) ∈ c ∧ Entry.read e id = .ok record := by
  obtain ⟨⟨id, e⟩, he, hread⟩ := Result.exists_of_mem_right (readEntries_eq_ok_iff.mp h) hm
  exact ⟨id, e, he, hread⟩

theorem holds_of_getAll {records : List Record} (h : cs.getAll name = .ok records) (hm : record ∈ records) :
    cs.Holds name record := by
  unfold getAll at h
  split at h
  · cases h
  · rename_i c hc
    obtain ⟨id, e, he, hread⟩ := mem_readEntries h hm
    exact ⟨c, id, e, collection_eq_ok hc, he, hread⟩

end Collections

end DocumentStore
