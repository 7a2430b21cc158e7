/-
  DocumentStore.Proofs.Updates — what some changes to a record come to, one after the other.

  A merge puts a payload over the record and keeps the rest of it, so two payloads can be put one over the
  other first and then merged at once (`Entry.alike_merge_merge`). A replacement keeps nothing but the store's
  own fields, and of these no change touches any but the time of the last one, so before a replacement other
  changes count for nothing (`Entry.alike_replace`).

  Records are alike here if they have the same fields, in whatever order, but for the time of the last change:
  the store moves it on with every change.
-/

import DocumentStore.Proofs.OrderedMap

namespace DocumentStore

open Store (Entry Operation Installs IdSource Clock idField updatedField isSystem)

/-! ## Records with the same fields -/

/-- The records have the same fields but for the time of their last change, and both have one. -/
structure Record.Alike (a b : Record) : Prop where
  stamped : a.has updatedField = true ∧ b.has updatedField = true
  fields : ∀ field, field ≠ updatedField → a.get? field = b.get? field

theorem Record.Alike.put {a b : Record} (h : a.Alike b) {name : String} (hne : name ≠ updatedField) (v : Value) :
    Record.Alike (a.put name v) (b.put name v) where
  stamped := by simpa only [Keyed.has, Keyed.get?_put_of_ne _ (Ne.symm hne)] using h.stamped
  fields field hf := by
    by_cases he : field = name
    · rw [he, Keyed.get?_put_self a (beq_self_eq_true name), Keyed.get?_put_self b (beq_self_eq_true name)]
    · rw [Keyed.get?_put_of_ne a he, Keyed.get?_put_of_ne b he, h.fields field hf]

namespace Store

namespace Entry

def ofJson (body : Record) : Entry := .ofRecord (body.drop isSystem)

variable {e e' : Entry} {field : String}

theorem get?_ofJson_own (body : Record) {own : String} (ho : isSystem own = true) :
    (ofJson body).record.get? own = none :=
  get?_ofPayload_own (ofPayload_ofMembers body) ho

theorem nodup_ofJson {body : Record} (h : body.names.Nodup) : (ofJson body).record.names.Nodup :=
  h.sublist (List.filter_sublist.map _)

theorem has_put_updated (e : Entry) (v : Value) : (e.put updatedField v).record.has updatedField = true := by
  rw [Keyed.has, get?_put_self]
  rfl

/-- But for the time of the change, a merge puts the changes over the record. -/
theorem get?_merge_of_ne {changes : Entry} (hn : changes.record.names.Nodup) (hne : field ≠ updatedField) (now : Int) :
    (e.merge changes now).record.get? field = (changes.record.get? field).or (e.record.get? field) := by
  rw [merge, put, Keyed.get?_put_of_ne _ hne, Keyed.get?_overlay hn]

/-- Two payloads merged one after the other are the second put over the first, merged at once. -/
theorem alike_merge_merge {p q : Record} (hp : p.names.Nodup) (hq : q.names.Nodup) (first second once : Int) :
    ((e.merge (ofJson p) first).merge (ofJson q) second).record.Alike (e.merge (ofJson (p.overlay q)) once).record where
  stamped := ⟨has_put_updated .., has_put_updated ..⟩
  fields field hne := by
    have hboth : (ofJson (p.overlay q)).record = (ofJson p).record.overlay (ofJson q).record := Keyed.drop_overlay p q
    rw [get?_merge_of_ne (nodup_ofJson hq) hne, get?_merge_of_ne (nodup_ofJson hp) hne,
      get?_merge_of_ne (nodup_ofJson (Keyed.nodup_names_overlay hp q)) hne, hboth, Keyed.get?_overlay (nodup_ofJson hq),
      Option.or_assoc]

/-- Of two entries whose own fields are the same a replacement makes the same. -/
theorem alike_replace (hown : ∀ own, isSystem own = true → own ≠ updatedField → e'.record.get? own = e.record.get? own)
    (body : Record) (now now' : Int) :
    (e'.replace (ofJson body) now').record.Alike (e.replace (ofJson body) now).record where
  stamped := ⟨has_put_updated .., has_put_updated ..⟩
  fields field hne := by
    cases hf : isSystem field with
    | true =>
      have hnone := get?_ofJson_own body hf
      rw [get?_replace_own hnone hf hne, get?_replace_own hnone hf hne, hown field hf hne]
    | false => rw [get?_replace hf, get?_replace hf]

end Entry

/-! ## Changes one after the other -/

def Operation.replacing (name id : String) (body : Record) : Operation := .replace name id (.ofValue (.object body))

def Operation.merging (name id : String) (body : Record) : Operation := .merge name id (.ofValue (.object body))

def Operation.Updates (op : Operation) (name id : String) : Prop :=
  ∃ body, op = .replacing name id body ∨ op = .merging name id body

def AllPass (s : Store) : List Operation → Prop
  | [] => True
  | op :: rest => (∃ answer, (op.run s).1 = .ok answer) ∧ AllPass (op.run s).2 rest

/-- Some operations go through, and some others in their place, and the record is read alike after the ones
and after the others. -/
structure LeaveAlike (s : Store) (name id : String) (ops others : List Operation) : Prop where
  passes : s.AllPass ops
  othersPass : s.AllPass others
  read : ∃ a b : Record, (s.after ops).collections.getOne name id = .ok a ∧
    (s.after others).collections.getOne name id = .ok b ∧ a.Alike b

section Updates

variable {s : Store} {op : Operation} {name id : String} {e e' : Entry}

theorem Installs.outcome (h : Installs s op id e) :
    (op.run s).1 = e.read id ∧ (op.run s).2.collections.stored? op.collection id = some e := by
  obtain ⟨ids, hrun⟩ := h.run_eq
  rw [hrun]
  exact ⟨rfl, by rw [Collections.stored?_putEntry, if_pos ⟨rfl, rfl⟩]⟩

theorem installs_replacing (he : s.collections.stored? name id = some e) (body : Record) :
    Installs s (.replacing name id body) id (e.replace (.ofJson body) s.clock.read.1) :=
  .replace rfl (Entry.ofPayload_ofMembers body) he

theorem installs_merging (he : s.collections.stored? name id = some e) (hf : e.foreign = none) (body : Record) :
    Installs s (.merging name id body) id (e.merge (.ofJson body) s.clock.read.1) :=
  .merge rfl (Entry.ofPayload_ofMembers body) he hf

/-- A change goes through if the record is there and can be read, and then it still is and can. -/
theorem update_passes (hop : op.Updates name id) (he : s.collections.stored? name id = some e) (hf : e.foreign = none) :
    (∃ answer, (op.run s).1 = .ok answer) ∧
      ∃ e', (op.run s).2.collections.stored? name id = some e' ∧ e'.foreign = none := by
  obtain ⟨body, rfl | rfl⟩ := hop
  · obtain ⟨hanswer, hstored⟩ := (installs_replacing he body).outcome
    exact ⟨⟨_, hanswer.trans (Entry.read_of_foreign rfl id)⟩, _, hstored, rfl⟩
  · obtain ⟨hanswer, hstored⟩ := (installs_merging he hf body).outcome
    exact ⟨⟨_, hanswer.trans (Entry.read_of_foreign rfl id)⟩, _, hstored, rfl⟩

theorem updates_pass {ops : List Operation} (hops : ∀ op ∈ ops, op.Updates name id)
    (he : s.collections.stored? name id = some e) (hf : e.foreign = none) : s.AllPass ops := by
  induction ops generalizing s e with
  | nil => trivial
  | cons op rest ih =>
    obtain ⟨hpass, e', he', hf'⟩ := update_passes (hops op List.mem_cons_self) he hf
    exact ⟨hpass, ih (fun o ho => hops o (List.mem_cons_of_mem op ho)) he' hf'⟩

/-- A change is no deletion. -/
theorem delete_not_mem_of_updates {ops : List Operation} (hops : ∀ op ∈ ops, op.Updates name id) :
    .delete name id ∉ ops := by
  intro hmem
  obtain ⟨body, h | h⟩ := hops _ hmem <;> cases h

theorem after_concat (s : Store) (ops : List Operation) (op : Operation) :
    s.after (ops ++ [op]) = (op.run (s.after ops)).2 := by
  rw [after, List.foldl_append]
  rfl

/-- Entries that can be read and have the same fields are read alike. -/
theorem read_alike (h : e.record.Alike e'.record) (hf : e.foreign = none) (hf' : e'.foreign = none) {s' : Store}
    (he : s.collections.stored? name id = some e) (he' : s'.collections.stored? name id = some e') :
    ∃ a b : Record, s.collections.getOne name id = .ok a ∧ s'.collections.getOne name id = .ok b ∧ a.Alike b :=
  ⟨_, _, Collections.getOne_eq_ok_iff.mpr ⟨e, he, Entry.read_of_foreign hf id⟩,
    Collections.getOne_eq_ok_iff.mpr ⟨e', he', Entry.read_of_foreign hf' id⟩, h.put (by decide) _⟩

theorem merges_compose (he : s.collections.stored? name id = some e) (hf : e.foreign = none) {p q : Record}
    (hp : p.names.Nodup) (hq : q.names.Nodup) :
    s.LeaveAlike name id [.merging name id p, .merging name id q] [.merging name id (p.overlay q)] := by
  have hmerging : ∀ body, (Operation.merging name id body).Updates name id := fun body => ⟨body, Or.inr rfl⟩
  have hfirst := (installs_merging he hf p).outcome.2
  have hsecond := (installs_merging hfirst rfl q).outcome.2
  have honce := (installs_merging he hf (p.overlay q)).outcome.2
  refine ⟨updates_pass (fun op hop => ?_) he hf, updates_pass (fun op hop => ?_) he hf,
    read_alike (Entry.alike_merge_merge hp hq _ _ _) rfl rfl hsecond honce⟩
  · rcases List.mem_pair.mp hop with rfl | rfl
    · exact hmerging p
    · exact hmerging q
  · exact List.mem_singleton.mp hop ▸ hmerging _

theorem replacement_forgets (he : s.collections.stored? name id = some e) (hf : e.foreign = none)
    {ops : List Operation} (hops : ∀ op ∈ ops, op.Updates name id) (body : Record) :
    s.LeaveAlike name id (ops ++ [.replacing name id body]) [.replacing name id body] := by
  have hlast : ∀ op ∈ [Operation.replacing name id body], op.Updates name id := fun op hop =>
    List.mem_singleton.mp hop ▸ ⟨body, Or.inl rfl⟩
  have hall : ∀ op ∈ ops ++ [Operation.replacing name id body], op.Updates name id := fun op hop =>
    (List.mem_append.mp hop).elim (hops op) (hlast op)
  obtain ⟨e', he', hown⟩ := entry_kept_after he (delete_not_mem_of_updates hops)
  have hafter := (installs_replacing he' body).outcome.2
  rw [← after_concat] at hafter
  have halone := (installs_replacing he body).outcome.2
  exact ⟨updates_pass hall he hf, updates_pass hlast he hf,
    read_alike (Entry.alike_replace hown body _ _) rfl rfl hafter halone⟩

end Updates

/-- However a store that was seeded with JSON came to where it is by being given JSON, and whatever its ids and
its clock are: of a record that is there, two merges leave what one merge of the second payload put over the
first leaves, and any changes with a replacement at their end leave what the replacement alone leaves. All
these changes go through, and the store's own fields in the payloads make no difference. -/
theorem updates_compose_and_replacements_forget {seed : Draft} {cs : Collections}
    (hseed : Collections.ofSeed seed = .ok cs) (ids : IdSource) (clock : Clock) {past : List Operation}
    (hpast : ∀ op ∈ past, op.IsJson) {name id : String} {e : Entry}
    (he : ((Store.mk cs ids clock).after past).collections.stored? name id = some e) :
    let s := (Store.mk cs ids clock).after past
    (∀ p q : Record, p.names.Nodup → q.names.Nodup →
      s.LeaveAlike name id [.merging name id p, .merging name id q] [.merging name id (p.overlay q)]) ∧
    ∀ ops : List Operation, (∀ op ∈ ops, op.Updates name id) → ∀ p : Record,
      s.LeaveAlike name id (ops ++ [.replacing name id p]) [.replacing name id p] := by
  intro s
  have horder : s.InOrder := (inOrder_ofSeed hseed ids clock).after hpast
  have hf : e.foreign = none := horder.readable.each.named name (id, e) (Keyed.mem_of_get? he)
  exact ⟨fun p q hp hq => merges_compose he hf hp hq, fun ops hops p => replacement_forgets he hf hops p⟩

/-! ### A book changed twice -/

def retitled : Record := [("title", .text "Emma"), ("_ownerId", .text "u2"), ("_createdOn", .int 0)]

def rerated : Record := [("rating", .int 5), ("title", .text "Persuasion")]

/-- The book of an owner that has been changed once already: after both merges it has the second title and the
rating, and after a replacement by the first payload none of it is left. The owner stays. -/
theorem updates_compose_and_replacements_forget_books :
    let s := (Store.mk ownedBooks (.numbered []) (.ofReadings 3 [])).after [forgery]
    let merges : List Operation := [.merging "books" "b1" retitled, .merging "books" "b1" rerated]
    let e : Entry := .ofRecord [("_updatedOn", .int 6), ("_ownerId", .text "u1")]
    Collections.ofSeed ownedSeed = .ok ownedBooks ∧ (∀ op ∈ [forgery], op.IsJson) ∧
      s.collections.stored? "books" "b1" = some e ∧ retitled.names.Nodup ∧ rerated.names.Nodup ∧
      s.LeaveAlike "books" "b1" merges [.merging "books" "b1" (retitled.overlay rerated)] ∧
      (s.after merges).collections.getOne "books" "b1" = .ok [("_updatedOn", .int 8), ("_ownerId", .text "u1"),
        ("title", .text "Persuasion"), ("rating", .int 5), ("_id", .text "b1")] ∧
      s.LeaveAlike "books" "b1" (merges ++ [.replacing "books" "b1" retitled]) [.replacing "books" "b1" retitled] ∧
      (s.after (merges ++ [.replacing "books" "b1" retitled])).collections.getOne "books" "b1" =
        .ok [("title", .text "Emma"), ("_updatedOn", .int 9), ("_ownerId", .text "u1"), ("_id", .text "b1")] := by
  intro s merges e
  have hj : ∀ op ∈ [forgery], op.IsJson := fun op h => List.mem_singleton.mp h ▸ ⟨_, rfl⟩
  have he : s.collections.stored? "books" "b1" = some e := rfl
  have hlaws := updates_compose_and_replacements_forget (rfl : Collections.ofSeed ownedSeed = .ok ownedBooks) _ _ hj he
  have hmerges : ∀ op ∈ merges, op.Updates "books" "b1" := by
    intro op hop
    rcases List.mem_pair.mp hop with rfl | rfl
    · exact ⟨retitled, Or.inr rfl⟩
    · exact ⟨rerated, Or.inr rfl⟩
  exact ⟨rfl, hj, he, by decide, by decide, hlaws.1 retitled rerated (by decide) (by decide), rfl,
    hlaws.2 merges hmerges retitled, rfl⟩

end Store

end DocumentStore
