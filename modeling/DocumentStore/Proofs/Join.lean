/-
  DocumentStore.Proofs.Join — what a query makes of the records it found.

  Choosing only drops and reorders records, so what is chosen was there (`mem_narrow`).
  Shaping works on each record alone (`shape_ok`): projection keeps fields as they are, and
  joins put values under their aliases only.
  - `get?_of_embeds`: the last join under an alias leaves there the record that it found,
    all of it but a password hash.
  - `get?_joinEach`: besides that a joined record has its own fields, and null where an
    alias had nothing to join.
-/

import DocumentStore.Proofs.Named
import DocumentStore.Proofs.SortOrder
import DocumentStore.Query.Shape

namespace DocumentStore.Query

/-! ## Choosing -/

section Choosing

variable {d : Directives} {records kept : List Record} {r : Record}

theorem mem_firstOfEach {key : Record → Except Failure String} {seen : List String}
    (h : firstOfEach key seen records = .ok kept) (hr : r ∈ kept) : r ∈ records := by
  induction records generalizing seen kept with
  | nil =>
    cases h
    exact hr
  | cons first rest ih =>
    unfold firstOfEach at h
    split at h
    · cases h
    split at h
    · exact List.mem_cons_of_mem first (ih h hr)
    · obtain ⟨others, hothers, rfl⟩ := Result.map_eq_ok.mp h
      rcases List.mem_cons.mp hr with rfl | hr
      · exact List.mem_cons_self
      · exact List.mem_cons_of_mem first (ih hothers hr)

theorem mem_filtered (h : r ∈ filtered d records) : r ∈ records := by
  unfold filtered at h
  split at h
  · exact (List.mem_filter.mp h).1
  · exact h

theorem mem_paged (h : r ∈ paged d records) : r ∈ records := by
  revert h
  unfold paged
  cases d.offset with
  | none =>
    cases d.pageSize with
    | none => exact id
    | some size => exact List.mem_of_mem_take
  | some offset =>
    cases d.pageSize with
    | none => exact List.mem_of_mem_drop
    | some size => exact fun h => List.mem_of_mem_drop (List.mem_of_mem_take h)

/-- Choosing is sorting what the filter accepts, and thinning a page of it out. -/
theorem narrowList_eq_ok_iff :
    narrowList d records = .ok kept ↔ ∃ sorted, sortRecords d.sortBy (filtered d records) = .ok sorted ∧
      (if d.distinct.isEmpty then .ok (paged d sorted) else distinctRecords d.distinct (paged d sorted)) = .ok kept := by
  rw [narrowList]
  cases sortRecords d.sortBy (filtered d records) <;> simp

theorem mem_narrowList (h : narrowList d records = .ok kept) (hr : r ∈ kept) : r ∈ records := by
  obtain ⟨sorted, hsorted, hkept⟩ := narrowList_eq_ok_iff.mp h
  have hpage : r ∈ paged d sorted := by
    split at hkept
    · cases hkept
      exact hr
    · exact mem_firstOfEach hkept hr
  exact mem_filtered ((mem_sortRecords hsorted).mp (mem_paged hpage))

theorem mem_narrow {found narrowed : Found} (h : narrow d found = .ok narrowed) (hr : r ∈ narrowed.records) :
    r ∈ found.records := by
  cases found with
  | one record =>
    cases h
    exact hr
  | many records =>
    obtain ⟨kept, hkept, rfl⟩ := Result.map_eq_ok.mp h
    exact mem_narrowList hkept hr

end Choosing

/-! ## Projecting -/

def Directives.selected (d : Directives) (record : Record) : Record :=
  if d.select.isEmpty then record else project d.select record

theorem get?_project {fields : List String} {record : Record} {field : String} {value : Value}
    (h : (project fields record).get? field = some value) : record.get? field = some value := by
  have hlist : Keyed.get? (Keyed.overlay [] (fields.filterMap fun name =>
      (record.get? name).map fun v => (name, v))) field = some value := h
  rcases Keyed.mem_or_get?_of_get?_overlay hlist with hm | hnone
  · obtain ⟨name, -, hv⟩ := List.mem_filterMap.mp hm
    obtain ⟨v, hv, he⟩ := Option.map_eq_some_iff.mp hv
    cases he
    exact hv
  · cases hnone

theorem get?_selected {d : Directives} {record : Record} {field : String} {value : Value}
    (h : (d.selected record).get? field = some value) : record.get? field = some value := by
  unfold Directives.selected at h
  split at h
  · exact h
  · exact get?_project h

/-! ## Joining -/

section Joining

variable {resolve : Resolver} {load : Load} {loads : List Load} {record joined related : Record}
  {field : String}

def joinEach (resolve : Resolver) : List Load → Record → Except Failure Record
  | [], record => .ok record
  | load :: rest, record =>
    match joinRecord resolve load record with
    | .error f => .error f
    | .ok joined => joinEach resolve rest joined

/-- The joins leave `related` under the alias of `load`: it is what that join finds, and
none of the joins after it has the same alias. -/
inductive Embeds (resolve : Resolver) : List Load → Record → Load → Record → Prop where
  | last {load : Load} {rest : List Load} {record related : Record}
      {id : String} (hnull : record.value load.source ≠ .null)
      (hid : (record.value load.source).spelled = .ok id) (hr : resolve load.collection id = .ok related)
      (hrest : ∀ l ∈ rest, l.as_ ≠ load.as_) : Embeds resolve (load :: rest) record load related
  | later {first load : Load} {rest : List Load} {record joined related : Record}
      (hj : joinRecord resolve first record = .ok joined)
      (h : Embeds resolve rest joined load related) : Embeds resolve (first :: rest) record load related

/-- A join puts null under its alias, or the related record that it found. -/
theorem joinRecord_ok (h : joinRecord resolve load record = .ok joined) :
    joined = record.put load.as_ .null ∨
      ∃ id related, record.value load.source ≠ .null ∧ (record.value load.source).spelled = .ok id ∧
        resolve load.collection id = .ok related ∧
        joined = record.put load.as_ (.object (related.erase passwordHash)) := by
  unfold joinRecord at h
  split at h
  · cases h
    exact Or.inl rfl
  rename_i hnull
  split at h
  · cases h
  · rename_i id hid
    obtain ⟨related, hr, rfl⟩ := Result.map_eq_ok.mp h
    exact Or.inr ⟨id, related, hnull, hid, hr, rfl⟩

theorem joinRecord_of_value {id : String} (hnull : record.value load.source ≠ .null)
    (hid : (record.value load.source).spelled = .ok id) (hr : resolve load.collection id = .ok related) :
    joinRecord resolve load record = .ok (record.put load.as_ (.object (related.erase passwordHash))) := by
  unfold joinRecord
  split
  · rename_i hnone
    exact absurd hnone hnull
  · rw [hid]
    dsimp only
    rw [hr]
    rfl

theorem get?_joinRecord_of_ne (h : joinRecord resolve load record = .ok joined) (hne : load.as_ ≠ field) :
    joined.get? field = record.get? field := by
  rcases joinRecord_ok h with rfl | ⟨id, related, -, -, -, rfl⟩
  · exact Keyed.get?_put_of_ne record (Ne.symm hne) _
  · exact Keyed.get?_put_of_ne record (Ne.symm hne) _

theorem joinEach_cons (h : joinEach resolve (load :: loads) record = .ok joined) :
    ∃ next, joinRecord resolve load record = .ok next ∧ joinEach resolve loads next = .ok joined := by
  unfold joinEach at h
  split at h
  · cases h
  · rename_i next hnext
    exact ⟨next, hnext, h⟩

theorem get?_joinEach_of_forall_ne (h : joinEach resolve loads record = .ok joined)
    (hne : ∀ l ∈ loads, l.as_ ≠ field) : joined.get? field = record.get? field := by
  induction loads generalizing record with
  | nil =>
    cases h
    rfl
  | cons first rest ih =>
    obtain ⟨next, hnext, hrest⟩ := joinEach_cons h
    rw [ih hrest fun l hl => hne l (List.mem_cons_of_mem first hl)]
    exact get?_joinRecord_of_ne hnext (hne first List.mem_cons_self)

/-- A related record is joined without its password hash, and whole otherwise. -/
theorem get?_of_embeds (he : Embeds resolve loads record load related)
    (h : joinEach resolve loads record = .ok joined) :
    joined.get? load.as_ = some (.object (related.erase passwordHash)) := by
  induction he with
  | last hnull hid hr hrest =>
    obtain ⟨next, hnext, hafter⟩ := joinEach_cons h
    rw [joinRecord_of_value hnull hid hr] at hnext
    cases hnext
    rw [get?_joinEach_of_forall_ne hafter hrest]
    exact Keyed.get?_put_self _ (beq_self_eq_true _) _
  | later hj _ ih =>
    obtain ⟨next, hnext, hafter⟩ := joinEach_cons h
    rw [hj] at hnext
    cases hnext
    exact ih hafter

theorem Embeds.resolved (he : Embeds resolve loads record load related) :
    ∃ id, resolve load.collection id = .ok related := by
  induction he with
  | last _ _ hr _ => exact ⟨_, hr⟩
  | later _ _ ih => exact ih

/-- What stands in a joined record is the record's own, if no alias covers it. Under an alias
there is null or a related record. -/
theorem get?_joinEach {value : Value} (h : joinEach resolve loads record = .ok joined)
    (hv : joined.get? field = some value) :
    ((∀ l ∈ loads, l.as_ ≠ field) ∧ record.get? field = some value) ∨ value = .null ∨
      ∃ load related, Embeds resolve loads record load related ∧ load.as_ = field ∧
        value = .object (related.erase passwordHash) := by
  induction loads generalizing record with
  | nil =>
    cases h
    exact Or.inl ⟨fun _ hl => absurd hl List.not_mem_nil, hv⟩
  | cons first rest ih =>
    obtain ⟨next, hnext, hafter⟩ := joinEach_cons h
    rcases ih hafter with ⟨hrest, hown⟩ | hnull | ⟨load, related, he, hf, rfl⟩
    · by_cases hf : first.as_ = field
      · subst hf
        rcases joinRecord_ok hnext with rfl | ⟨id, related, hnull, hid, hr, rfl⟩
        · rw [Keyed.get?_put_self record (beq_self_eq_true _)] at hown
          cases hown
          exact Or.inr (Or.inl rfl)
        · rw [Keyed.get?_put_self record (beq_self_eq_true _)] at hown
          cases hown
          exact Or.inr (Or.inr ⟨first, related, .last hnull hid hr hrest, rfl, rfl⟩)
      · rw [get?_joinRecord_of_ne hnext hf] at hown
        exact Or.inl ⟨List.forall_mem_cons.mpr ⟨hf, hrest⟩, hown⟩
    · exact Or.inr (Or.inl hnull)
    · exact Or.inr (Or.inr ⟨load, related, .later hnext he, hf, rfl⟩)

end Joining

/-! ## Shaping -/

section Shaping

variable {resolve : Resolver} {loads : List Load} {records joined : List Record}

theorem joinRecords_cons (resolve : Resolver) (load : Load) (record : Record) (rest : List Record) :
    joinRecords resolve load (record :: rest) =
      (joinRecord resolve load record).bind fun j => (joinRecords resolve load rest).map (j :: ·) := by
  rw [joinRecords]
  cases joinRecord resolve load record <;> rfl

theorem joinRecords_eq_ok_iff {load : Load} :
    joinRecords resolve load records = .ok joined ↔
      List.Forall₂ (fun record j => joinRecord resolve load record = .ok j) records joined :=
  Result.collect_eq_ok_iff (joinRecords resolve load) (joinRecord resolve load) rfl (joinRecords_cons resolve load)

theorem joinEach_cons_eq_ok_iff {load : Load} {record j : Record} :
    joinEach resolve (load :: loads) record = .ok j ↔
      ∃ next, joinRecord resolve load record = .ok next ∧ joinEach resolve loads next = .ok j := by
  constructor
  · exact joinEach_cons
  · rintro ⟨next, hnext, hj⟩
    simp only [joinEach, hnext, hj]

/-- Joins over all records are the joins on each of them. -/
theorem joinAll_eq_ok_iff :
    joinAll resolve loads records = .ok joined ↔
      List.Forall₂ (fun record j => joinEach resolve loads record = .ok j) records joined := by
  induction loads generalizing records with
  | nil =>
    simp only [joinAll, joinEach, Except.ok.injEq, List.forall₂_eq_eq_eq]
  | cons load rest ih =>
    simp only [joinEach_cons_eq_ok_iff, Result.forall₂_comp_iff, ← joinRecords_eq_ok_iff, ← ih, joinAll]
    cases joinRecords resolve load records <;> simp

/-- Shaping a list is joining what is selected of it. -/
theorem shapeList_eq (d : Directives) (resolve : Resolver) (records : List Record) :
    shapeList d (some resolve) records = joinAll resolve d.load (records.map d.selected) := by
  have hselected : (if d.select.isEmpty then records else records.map (project d.select)) =
      records.map d.selected := by
    unfold Directives.selected
    split
    · exact (List.map_id' records).symm
    · rfl
  simp only [shapeList, hselected]
  split
  · rename_i hnone
    rw [List.isEmpty_iff.mp hnone, joinAll]
  · rfl

/-- Shaping a list is shaping each of its records. -/
theorem shapeList_eq_ok_iff {d : Directives} :
    shapeList d (some resolve) records = .ok joined ↔
      List.Forall₂ (fun record j => joinEach resolve d.load (d.selected record) = .ok j) records joined := by
  rw [shapeList_eq, joinAll_eq_ok_iff, List.forall₂_map_left_iff]

/-- A query counts what it found, or answers each record on its own. -/
theorem shape_ok {d : Directives} {found : Found} {shaped : Shaped}
    (h : shape d (some resolve) found = .ok shaped) :
    shaped = .count found.records.length ∨
      ∃ joined, List.Forall₂ (fun record j => joinEach resolve d.load (d.selected record) = .ok j)
        found.records joined ∧ shaped = found.reshape joined := by
  unfold shape at h
  split at h
  · cases h
    exact Or.inl rfl
  · obtain ⟨joined, hj, rfl⟩ := Result.map_eq_ok.mp h
    exact Or.inr ⟨joined, shapeList_eq_ok_iff.mp hj, rfl⟩

end Shaping

end DocumentStore.Query
