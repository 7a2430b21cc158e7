/-
  DocumentStore.Proofs.Without — reading and querying with some fields out of sight.

  Two records are the same but for some fields if they are equal without them. What is read keeps
  records so: `getOne_without` and `getAll_without` read collections from whose records a field was
  taken. So does a query, as long as nothing that it chooses or joins by is out of sight:
  - `narrow_drop`: records are chosen alike with and without the fields.
  - `shape_alike`: what records are made into is the same but for the fields, if the joins find the
    same but for a password hash.
-/

import DocumentStore.Proofs.Collections
import DocumentStore.Proofs.Join

namespace DocumentStore

open Store (Entry idField)

variable {p : String → Bool}

/-! ## Collections without a field -/

namespace Store.Entry

def without (e : Entry) (field : String) : Entry := { e with record := e.record.erase field }

theorem read_without {field : String} (hne : field ≠ idField) (e : Entry) (id : String) :
    (e.without field).read id = (e.read id).map (·.erase field) := by
  unfold read without
  cases e.foreign with
  | some kind => rfl
  | none =>
    have hput : Keyed.erase (e.record.put idField (.text id)) field = (e.record.erase field).put idField (.text id) := by
      show Keyed.drop (· == field) _ = _
      rw [Keyed.drop_put, if_neg (by simpa using Ne.symm hne)]
      rfl
    exact congrArg Except.ok hput.symm

end Store.Entry

def Collection.without (c : Collection) (field : String) : Collection := c.map fun f => (f.1, f.2.without field)

namespace Collections

variable {name other field : String}

/-- The collections with a field taken from every record of the one of this name. -/
def without (cs : Collections) (name field : String) : Collections :=
  cs.map fun f => (f.1, if f.1 == .text name then Collection.without f.2 field else f.2)

theorem collection_without (cs : Collections) (name other field : String) :
    (cs.without name field).collection other =
      (cs.collection other).map fun c => if other = name then Collection.without c field else c := by
  have hget : Keyed.get? (cs.without name field) (.text other) =
      (cs.get? (.text other)).map fun c => if Key.text other == .text name then Collection.without c field else c :=
    Keyed.get?_map (g := fun k c => if k == Key.text name then Collection.without c field else c)
      (fun _ h => by rw [Key.eq_of_beq_text h]) cs
  unfold collection
  rw [hget]
  cases cs.get? (.text other) with
  | none => rfl
  | some c => simp only [Option.map_some, Key.text_beq_text, beq_iff_eq, Except.map]

theorem getOne_without (hne : field ≠ idField) (cs : Collections) (name id : String) :
    (cs.without name field).getOne name id = (cs.getOne name id).map (·.erase field) := by
  unfold getOne entry
  rw [collection_without]
  cases cs.collection name with
  | error f => rfl
  | ok c =>
    have hget : Keyed.get? (Collection.without c field) id = (c.get? id).map (Entry.without · field) :=
      Keyed.get?_map (g := fun _ e => Entry.without e field) (fun _ _ => rfl) c
    simp only [Except.map, if_true, hget]
    cases c.get? id with
    | none => rfl
    | some e => exact Entry.read_without hne e id

theorem getOne_without_of_ne (hne : other ≠ name) (cs : Collections) (field id : String) :
    (cs.without name field).getOne other id = cs.getOne other id := by
  unfold getOne entry
  rw [collection_without]
  simp only [if_neg hne]
  cases cs.collection other with
  | error f => rfl
  | ok c => rfl

theorem readEntries_without (hne : field ≠ idField) (c : Collection) :
    readEntries (Collection.without c field) = (readEntries c).map (List.map (·.erase field)) := by
  induction c with
  | nil => rfl
  | cons f rest ih =>
    obtain ⟨id, e⟩ := f
    show readEntries ((id, e.without field) :: Collection.without rest field) = _
    rw [readEntries, readEntries, Entry.read_without hne, ih]
    cases e.read id with
    | error f => rfl
    | ok record => cases readEntries rest <;> rfl

theorem getAll_without (hne : field ≠ idField) (cs : Collections) (name : String) :
    (cs.without name field).getAll name = (cs.getAll name).map (List.map (·.erase field)) := by
  unfold getAll
  rw [collection_without]
  cases cs.collection name with
  | error f => rfl
  | ok c => exact (congrArg readEntries (if_pos rfl)).trans (readEntries_without hne c)

end Collections

theorem Record.value_drop {field : String} (hp : p field = false) (record : Record) :
    Record.value (record.drop p) field = record.value field := by
  rw [Record.value, Record.value, Keyed.get?_drop hp]

theorem Record.value_congr {field : String} {r₁ r₂ : Record} (h : r₁.drop p = r₂.drop p) (hp : p field = false) :
    r₁.value field = r₂.value field := by
  rw [Record.value, Record.value, Keyed.get?_congr h hp]

namespace Query

/-! ## Choosing -/

structure Directives.ChoosesWithout (d : Directives) (p : String → Bool) : Prop where
  filter : ∀ f, d.filter = some f → ∀ c ∈ f.clauses, p c.field = false
  sortBy : ∀ key ∈ d.sortBy, p key.field = false
  distinct : ∀ field ∈ d.distinct, p field = false

section Choosing

variable {d : Directives} {records : List Record}

theorem accepts_drop {filter : Filter} (h : ∀ c ∈ filter.clauses, p c.field = false) (record : Record) :
    filter.accepts (record.drop p) = filter.accepts record := by
  have hclause : ∀ c ∈ filter.clauses, c.accepts (record.drop p) = c.accepts record := fun c hc => by
    rw [Clause.accepts, Clause.accepts, Record.value_drop (h c hc)]
  unfold Filter.accepts
  cases filter.connective with
  | and =>
    rw [Bool.eq_iff_iff, List.all_eq_true, List.all_eq_true]
    exact forall₂_congr fun c hc => by rw [hclause c hc]
  | or =>
    rw [Bool.eq_iff_iff, List.any_eq_true, List.any_eq_true]
    exact exists_congr fun c => and_congr_right fun hc => by rw [hclause c hc]

theorem compare_drop {key : SortKey} (hk : p key.field = false) (a b : Record) :
    key.compare (a.drop p) (b.drop p) = key.compare a b := by
  rw [SortKey.compare, SortKey.compare, Record.value_drop hk, Record.value_drop hk]

theorem insert_drop {key : SortKey} (hk : p key.field = false) (record : Record) (sorted : List Record) :
    key.insert (record.drop p) (sorted.map (·.drop p)) = (key.insert record sorted).map (List.map (·.drop p)) := by
  induction sorted with
  | nil => rfl
  | cons first rest ih =>
    rw [List.map_cons, SortKey.insert, SortKey.insert, compare_drop hk, ih]
    cases key.compare record first with
    | error f => rfl
    | ok o =>
      dsimp only
      split
      · rfl
      · cases key.insert record rest <;> rfl

theorem pass_drop {key : SortKey} (hk : p key.field = false) (records : List Record) :
    key.pass (records.map (·.drop p)) = (key.pass records).map (List.map (·.drop p)) := by
  induction records with
  | nil => rfl
  | cons record rest ih =>
    rw [List.map_cons, SortKey.pass, SortKey.pass, ih]
    cases key.pass rest with
    | error f => rfl
    | ok sorted => exact insert_drop hk record sorted

theorem sortRecords_drop {keys : List SortKey} (h : ∀ key ∈ keys, p key.field = false) (records : List Record) :
    sortRecords keys (records.map (·.drop p)) = (sortRecords keys records).map (List.map (·.drop p)) := by
  induction keys with
  | nil => rfl
  | cons key rest ih =>
    rw [sortRecords, sortRecords, ih fun k hk => h k (List.mem_cons_of_mem key hk)]
    cases sortRecords rest records with
    | error f => rfl
    | ok sorted => exact pass_drop (h key List.mem_cons_self) sorted

theorem fieldTexts_drop {fields : List String} (h : ∀ field ∈ fields, p field = false) (record : Record) :
    fieldTexts (record.drop p) fields = fieldTexts record fields := by
  induction fields with
  | nil => rfl
  | cons field rest ih =>
    rw [fieldTexts, fieldTexts, Record.value_drop (h field List.mem_cons_self),
      ih fun f hf => h f (List.mem_cons_of_mem field hf)]

theorem distinctKey_drop {fields : List String} (h : ∀ field ∈ fields, p field = false) (record : Record) :
    distinctKey fields (record.drop p) = distinctKey fields record := by
  rw [distinctKey, distinctKey, fieldTexts_drop h]

theorem firstOfEach_drop {key : Record → Except Failure String}
    (hkey : ∀ record : Record, key (record.drop p) = key record) (seen : List String) (records : List Record) :
    firstOfEach key seen (records.map (·.drop p)) = (firstOfEach key seen records).map (List.map (·.drop p)) := by
  induction records generalizing seen with
  | nil => rfl
  | cons record rest ih =>
    rw [List.map_cons, firstOfEach, firstOfEach, hkey]
    cases key record with
    | error f => rfl
    | ok k =>
      dsimp only
      rw [ih, ih]
      split
      · rfl
      · cases firstOfEach key (k :: seen) rest <;> rfl

theorem dropTo_map (f : Record → Record) (offset : Int) (records : List Record) :
    dropTo offset (records.map f) = (dropTo offset records).map f := by
  rw [dropTo, dropTo, List.length_map, List.map_drop]

theorem takePage_map (f : Record → Record) (size : Int) (records : List Record) :
    takePage size (records.map f) = (takePage size records).map f := by
  rw [takePage, takePage, List.length_map, List.map_take]

theorem paged_map (f : Record → Record) (d : Directives) (records : List Record) :
    paged d (records.map f) = (paged d records).map f := by
  unfold paged
  cases d.offset <;> cases d.pageSize <;> simp only [dropTo_map, takePage_map]

theorem filtered_drop (h : d.ChoosesWithout p) (records : List Record) :
    filtered d (records.map (·.drop p)) = (filtered d records).map (·.drop p) := by
  unfold filtered
  cases hf : d.filter with
  | none => rfl
  | some f =>
    have hsame : f.accepts ∘ (fun r : Record => r.drop p) = f.accepts := funext (accepts_drop (h.filter f hf))
    simp only [List.filter_map, hsame]

/-- Records are chosen alike with and without fields that they are not chosen by. -/
theorem narrowList_drop (h : d.ChoosesWithout p) (records : List Record) :
    narrowList d (records.map (·.drop p)) = (narrowList d records).map (List.map (·.drop p)) := by
  rw [narrowList, narrowList, filtered_drop h, sortRecords_drop h.sortBy]
  cases sortRecords d.sortBy (filtered d records) with
  | error f => rfl
  | ok sorted =>
    show (if d.distinct.isEmpty then .ok (paged d (sorted.map (·.drop p)))
      else distinctRecords d.distinct (paged d (sorted.map (·.drop p)))) = _
    rw [paged_map]
    split
    · rfl
    · exact firstOfEach_drop (distinctKey_drop h.distinct) [] (paged d sorted)

def Found.map (f : Record → Record) : Found → Found
  | .one record => .one (f record)
  | .many records => .many (records.map f)

theorem Found.records_map (f : Record → Record) (found : Found) : (found.map f).records = found.records.map f := by
  cases found <;> rfl

theorem narrow_drop (h : d.ChoosesWithout p) (found : Found) :
    narrow d (found.map (·.drop p)) = (narrow d found).map (Found.map (·.drop p)) := by
  cases found with
  | one record => rfl
  | many records =>
    show (narrowList d (records.map (·.drop p))).map Found.many = ((narrowList d records).map Found.many).map _
    rw [narrowList_drop h]
    cases narrowList d records <;> rfl

end Choosing

/-! ## Shaping -/

section Shaping

variable {resolve₁ resolve₂ : Resolver} {load : Load} {loads : List Load} {r₁ r₂ : Record} {rs₁ rs₂ : List Record}
  {d : Directives}

/-- A projection takes the fields out of sight from where they were, and the others from what is
in sight. -/
theorem project_alike (fields : List String) (h : r₁.drop p = r₂.drop p) :
    Keyed.drop p (project fields r₁) = Keyed.drop p (project fields r₂) := by
  have hpicked : ∀ names : List String,
      Keyed.drop p (names.filterMap fun name => (r₁.get? name).map fun v => (name, v)) =
        Keyed.drop p (names.filterMap fun name => (r₂.get? name).map fun v => (name, v)) := by
    intro names
    induction names with
    | nil => rfl
    | cons name rest ih =>
      simp only [Keyed.drop] at ih
      cases hp : p name with
      | true =>
        cases h₁ : r₁.get? name <;> cases h₂ : r₂.get? name <;> simp [Keyed.drop, h₁, h₂, hp, ih]
      | false =>
        have hsame : r₁.get? name = r₂.get? name := Keyed.get?_congr h hp
        cases h₂ : r₂.get? name <;> simp [Keyed.drop, hsame, h₂, hp, ih]
  rw [project, project, Keyed.ofList, Keyed.ofList, Keyed.drop_overlay, Keyed.drop_overlay, hpicked]

/-- Both resolvers find the same records but for a password hash, or fail alike. -/
def FindAlike (resolve₁ resolve₂ : Resolver) (collection : String) : Prop :=
  ∀ id, (resolve₁ collection id).map (·.erase passwordHash) = (resolve₂ collection id).map (·.erase passwordHash)

theorem put_alike (h : r₁.drop p = r₂.drop p) (field : String) (v : Value) :
    Keyed.drop p (r₁.put field v) = Keyed.drop p (r₂.put field v) := by
  rw [Keyed.drop_put, Keyed.drop_put, h]

theorem joinRecord_alike (hload : FindAlike resolve₁ resolve₂ load.collection) (hsource : p load.source = false)
    (h : r₁.drop p = r₂.drop p) :
    (joinRecord resolve₁ load r₁).map (·.drop p) = (joinRecord resolve₂ load r₂).map (·.drop p) := by
  rw [joinRecord, joinRecord, Record.value_congr h hsource]
  split
  · exact congrArg Except.ok (put_alike h load.as_ .null)
  · cases (r₂.value load.source).spelled with
    | error f => rfl
    | ok id =>
      dsimp only
      rcases Result.cases_of_map_eq (hload id) with ⟨f, h₁, h₂⟩ | ⟨related₁, related₂, h₁, h₂, he⟩
      · rw [h₁, h₂]
        rfl
      · rw [h₁, h₂]
        refine congrArg Except.ok ?_
        dsimp only
        rw [he]
        exact put_alike h load.as_ _

theorem joinRecords_alike (hload : FindAlike resolve₁ resolve₂ load.collection) (hsource : p load.source = false)
    (h : rs₁.map (·.drop p) = rs₂.map (·.drop p)) :
    (joinRecords resolve₁ load rs₁).map (List.map (·.drop p)) =
      (joinRecords resolve₂ load rs₂).map (List.map (·.drop p)) := by
  induction rs₁ generalizing rs₂ with
  | nil =>
    obtain rfl : rs₂ = [] := List.map_eq_nil_iff.mp h.symm
    rfl
  | cons r₁ rest₁ ih =>
    obtain ⟨r₂, rest₂, rfl, hr, hrest⟩ := List.map_eq_cons_iff.mp h.symm
    rw [joinRecords, joinRecords]
    rcases Result.cases_of_map_eq (joinRecord_alike hload hsource hr.symm) with ⟨f, h₁, h₂⟩ | ⟨j₁, j₂, h₁, h₂, hj⟩
    · rw [h₁, h₂]
    · rw [h₁, h₂]
      dsimp only
      rcases Result.cases_of_map_eq (ih hrest.symm) with ⟨f, h₁, h₂⟩ | ⟨js₁, js₂, h₁, h₂, hjs⟩
      · rw [h₁, h₂]
        rfl
      · rw [h₁, h₂]
        exact congrArg Except.ok (by rw [List.map_cons, List.map_cons, hj, hjs])

theorem joinAll_alike (hloads : ∀ load ∈ loads, FindAlike resolve₁ resolve₂ load.collection ∧ p load.source = false)
    (h : rs₁.map (·.drop p) = rs₂.map (·.drop p)) :
    (joinAll resolve₁ loads rs₁).map (List.map (·.drop p)) =
      (joinAll resolve₂ loads rs₂).map (List.map (·.drop p)) := by
  induction loads generalizing rs₁ rs₂ with
  | nil => exact congrArg Except.ok h
  | cons load rest ih =>
    obtain ⟨hload, hsource⟩ := hloads load List.mem_cons_self
    rw [joinAll, joinAll]
    rcases Result.cases_of_map_eq (joinRecords_alike hload hsource h) with ⟨f, h₁, h₂⟩ | ⟨js₁, js₂, h₁, h₂, hjs⟩
    · rw [h₁, h₂]
    · rw [h₁, h₂]
      exact ih (fun l hl => hloads l (List.mem_cons_of_mem load hl)) hjs

theorem map_alike {f : Record → Record} (hf : ∀ a b : Record, a.drop p = b.drop p → (f a).drop p = (f b).drop p)
    (h : rs₁.map (·.drop p) = rs₂.map (·.drop p)) : (rs₁.map f).map (·.drop p) = (rs₂.map f).map (·.drop p) := by
  induction rs₁ generalizing rs₂ with
  | nil =>
    obtain rfl : rs₂ = [] := List.map_eq_nil_iff.mp h.symm
    rfl
  | cons r₁ rest₁ ih =>
    obtain ⟨r₂, rest₂, rfl, hr, hrest⟩ := List.map_eq_cons_iff.mp h.symm
    exact congrArg₂ List.cons (hf r₁ r₂ hr.symm) (ih hrest.symm)

theorem shapeList_alike (hloads : ∀ load ∈ d.load, FindAlike resolve₁ resolve₂ load.collection ∧ p load.source = false)
    (h : rs₁.map (·.drop p) = rs₂.map (·.drop p)) :
    (shapeList d (some resolve₁) rs₁).map (List.map (·.drop p)) =
      (shapeList d (some resolve₂) rs₂).map (List.map (·.drop p)) := by
  have hselected : (if d.select.isEmpty then rs₁ else rs₁.map (project d.select)).map (·.drop p) =
      (if d.select.isEmpty then rs₂ else rs₂.map (project d.select)).map (·.drop p) := by
    split
    · exact h
    · exact map_alike (fun _ _ => project_alike d.select) h
  simp only [shapeList]
  split
  · exact congrArg Except.ok hselected
  · exact joinAll_alike hloads hselected

def Shaped.map (f : Record → Record) : Shaped → Shaped
  | .one record => .one (f record)
  | .many records => .many (records.map f)
  | .count n => .count n

theorem reshape_map (f : Record → Record) (found : Found) (records : List Record) :
    (found.reshape records).map f = (found.map f).reshape (records.map f) := by
  cases found with
  | many rs => rfl
  | one r =>
    match records with
    | [] => rfl
    | [record] => rfl
    | _ :: _ :: _ => rfl

theorem shape_alike (hloads : ∀ load ∈ d.load, FindAlike resolve₁ resolve₂ load.collection ∧ p load.source = false)
    {found₁ found₂ : Found} (h : found₁.map (·.drop p) = found₂.map (·.drop p)) :
    (shape d (some resolve₁) found₁).map (Shaped.map (·.drop p)) =
      (shape d (some resolve₂) found₂).map (Shaped.map (·.drop p)) := by
  have hrecords : found₁.records.map (·.drop p) = found₂.records.map (·.drop p) := by
    rw [← Found.records_map, h, Found.records_map]
  unfold shape
  split
  · have hlength := congrArg List.length hrecords
    rw [List.length_map, List.length_map] at hlength
    rw [hlength]
  · rcases Result.cases_of_map_eq (shapeList_alike hloads hrecords) with ⟨f, h₁, h₂⟩ | ⟨js₁, js₂, h₁, h₂, hjs⟩
    · rw [h₁, h₂]
      rfl
    · rw [h₁, h₂]
      refine congrArg Except.ok ?_
      rw [reshape_map, reshape_map, h, hjs]

end Shaping

end Query

end DocumentStore
