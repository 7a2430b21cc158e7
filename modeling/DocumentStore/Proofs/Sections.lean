/-
  DocumentStore.Proofs.Sections — where the rules of a document are found again.

  Where each name stands once, a rule that is set under an action is what the compiled actions have
  there (`get?_compileActionsInto`), a collection's part of the document is what its rules were
  compiled from (`collections_compileInto`), and the part under `*` is what was put over the rules
  from the start (`defaults_compileInto`).

  Within a collection's part, what stands under `*` is what its field rules were compiled from
  (`fields_compileSections`), and what stands under an id the rules of that record
  (`records_compileSections`); the rules of a field are those set for it
  (`get?_compileEachField`, `get?_fieldRulesFor`).
-/

import DocumentStore.Proofs.Document
import DocumentStore.Proofs.Entry

namespace DocumentStore.Rule

variable {registry : Registry}

/-! ## Actions -/

section Actions

variable {place : Key} {key : String} {raw : Named Document} {acc actions : ActionRules}

theorem names_nodup_compileActionsInto (ha : acc.names.Nodup)
    (h : compileActionsInto registry place acc raw = .ok actions) : actions.names.Nodup := by
  induction raw generalizing acc with
  | nil =>
    cases h
    exact ha
  | cons f rest ih =>
    unfold compileActionsInto at h
    split at h
    · split at h
      · exact absurd h (refuseAt_ne_ok _ _ _)
      split at h
      · exact ih ha h
      split at h
      · cases h
      · exact ih (Keyed.nodup_names_put ha _ _) h
    · exact ih ha h

theorem Action.eq_key_of_ofKey? {action : Action} (h : Action.ofKey? key = some action) : key = action.key := by
  unfold Action.ofKey? at h
  split at h
  · cases h
    assumption
  split at h
  · cases h
    assumption
  split at h
  · cases h
    assumption
  split at h
  · cases h
    assumption
  · cases h

/-- Rules are there under actions alone. -/
theorem keys_compileActionsInto (ha : ∀ k ∈ acc.names, ∃ action : Action, k = action.key)
    (h : compileActionsInto registry place acc raw = .ok actions) :
    ∀ k ∈ actions.names, ∃ action : Action, k = action.key := by
  induction raw generalizing acc with
  | nil =>
    cases h
    exact ha
  | cons f rest ih =>
    unfold compileActionsInto at h
    split at h
    · split at h
      · exact absurd h (refuseAt_ne_ok _ _ _)
      rename_i action haction
      split at h
      · exact ih ha h
      split at h
      · cases h
      · refine ih (fun k hk => ?_) h
        rw [Keyed.names_put] at hk
        split at hk
        · exact ha k hk
        · rcases List.mem_append.mp hk with hk | hk
          · exact ha k hk
          · exact ⟨action, (List.mem_singleton.mp hk).trans (Action.eq_key_of_ofKey? haction)⟩
    · exact ih ha h

/-- Actions for which a document sets no rule keep theirs. -/
theorem get?_compileActionsInto_of_unset (hk : ∀ f ∈ raw, f.1 = key → isUnset f.2 = true)
    (h : compileActionsInto registry place acc raw = .ok actions) : actions.get? key = acc.get? key := by
  induction raw generalizing acc with
  | nil =>
    cases h
    rfl
  | cons f rest ih =>
    have hrest : ∀ g ∈ rest, g.1 = key → isUnset g.2 = true := fun g hg => hk g (List.mem_cons_of_mem f hg)
    unfold compileActionsInto at h
    split at h
    · split at h
      · exact absurd h (refuseAt_ne_ok _ _ _)
      split at h
      · exact ih hrest h
      rename_i hset
      split at h
      · cases h
      · have hne : key ≠ f.1 := fun e => hset (hk f List.mem_cons_self e.symm)
        rw [ih hrest h, Keyed.get?_put_of_ne acc hne]
    · exact ih hrest h

/-- Actions that a document says nothing of keep their rule. -/
theorem get?_compileActionsInto_of_none (hk : raw.get? key = none)
    (h : compileActionsInto registry place acc raw = .ok actions) : actions.get? key = acc.get? key :=
  get?_compileActionsInto_of_unset
    (fun _ hf e => absurd (e ▸ List.mem_map_of_mem hf) (Keyed.get?_eq_none_iff.mp hk)) h

/-- A rule that a document sets under an action is compiled and found there. -/
theorem get?_compileActionsInto (hn : raw.names.Nodup) (hkey : isActionKey key = true) {d : Document}
    (hd : raw.get? key = some d) (hset : isUnset d = false)
    (h : compileActionsInto registry place acc raw = .ok actions) :
    ∃ rule, compile registry d = .ok rule ∧ actions.get? key = some rule := by
  induction raw generalizing acc with
  | nil => cases hd
  | cons f rest ih =>
    obtain ⟨hf, hrest⟩ := List.nodup_cons.mp hn
    rw [Keyed.get?_cons] at hd
    unfold compileActionsInto at h
    by_cases hhere : f.1 = key
    · subst hhere
      obtain rfl : f.2 = d := by simpa using hd
      rw [if_pos hkey] at h
      split at h
      · exact absurd h (refuseAt_ne_ok _ _ _)
      rw [hset, if_neg Bool.false_ne_true] at h
      split at h
      · cases h
      · rename_i rule hrule
        refine ⟨rule, hrule, ?_⟩
        rw [get?_compileActionsInto_of_none (Keyed.get?_eq_none_iff.mpr hf) h,
          Keyed.get?_put_self acc (beq_self_eq_true _)]
    · rw [if_neg (by simpa using hhere)] at hd
      split at h
      · split at h
        · exact absurd h (refuseAt_ne_ok _ _ _)
        split at h
        · exact ih hrest hd h
        split at h
        · cases h
        · exact ih hrest hd h
      · exact ih hrest hd h

end Actions

/-! ## Fields -/

section Fields

variable {path field : String} {raw : Named Document} {fields : FieldRules}

/-- The fields with rules are those that a document names, in its order. -/
theorem names_compileEachField (h : compileEachField registry path raw = .ok fields) :
    fields.names = raw.names.filter fun name => !isActionKey name := by
  induction raw generalizing fields with
  | nil =>
    cases h
    rfl
  | cons f rest ih =>
    unfold compileEachField at h
    split at h
    · rename_i haction
      rw [ih h]
      simp [Keyed.names, haction]
    rename_i haction
    split at h
    · split at h
      · cases h
      · obtain ⟨others, ho, rfl⟩ := Result.map_eq_ok.mp h
        have := ih ho
        simp only [Keyed.names] at this
        simp [Keyed.names, haction, this]
    · cases h

/-- The rules of a field are compiled from what a document says under its name. -/
theorem get?_compileEachField (hf : isActionKey field = false) (h : compileEachField registry path raw = .ok fields)
    {actions : ActionRules} (hget : fields.get? field = some actions) :
    ∃ d part, raw.get? field = some d ∧ d.part? = some part ∧
      compileActions registry (path ++ "." ++ field) part = .ok actions := by
  induction raw generalizing fields with
  | nil =>
    cases h
    cases hget
  | cons f rest ih =>
    obtain ⟨name, value⟩ := f
    unfold compileEachField at h
    split at h
    · rename_i haction
      have hne : name ≠ field := fun e => by rw [e, hf] at haction; cases haction
      rw [Keyed.get?_cons, if_neg (by simpa using hne)]
      exact ih h hget
    split at h
    · rename_i part hpart
      split at h
      · cases h
      · rename_i found hfound
        obtain ⟨others, ho, rfl⟩ := Result.map_eq_ok.mp h
        rw [Keyed.get?_cons] at hget ⊢
        by_cases hname : name = field
        · subst hname
          rw [if_pos (beq_self_eq_true name)] at hget ⊢
          cases hget
          exact ⟨value, part, rfl, hpart, hfound⟩
        · rw [if_neg (by simpa using hname)] at hget ⊢
          exact ih ho hget
    · cases h

/-- The rule of a field for an action is the one of its actions. -/
theorem get?_fieldRulesFor (hn : fields.names.Nodup) (action : Action) (field : String) :
    (fieldRulesFor action fields).get? field = (fields.get? field).bind (·.get? action.key) := by
  induction fields with
  | nil => rfl
  | cons f rest ih =>
    obtain ⟨name, actions⟩ := f
    obtain ⟨hname, hrest⟩ := List.nodup_cons.mp hn
    have ih := ih hrest
    unfold fieldRulesFor at ih ⊢
    rw [List.filterMap_cons, Keyed.get?_cons]
    by_cases hhere : name = field
    · subst hhere
      rw [Keyed.get?_eq_none_iff.mpr hname] at ih
      cases ha : actions.get? action.key with
      | none => simpa [ha] using ih
      | some rule => simp [ha, Keyed.get?_cons]
    · cases ha : actions.get? action.key with
      | none => simpa [ha, hhere] using ih
      | some rule => simpa [ha, Keyed.get?_cons, hhere] using ih

theorem names_nodup_fieldRulesFor (hn : fields.names.Nodup) (action : Action) :
    (fieldRulesFor action fields).names.Nodup := by
  refine hn.sublist ?_
  clear hn
  induction fields with
  | nil => exact .slnil
  | cons f rest ih =>
    obtain ⟨name, actions⟩ := f
    unfold fieldRulesFor at ih ⊢
    rw [List.filterMap_cons]
    dsimp only
    cases actions.get? action.key with
    | none => exact ih.cons name
    | some rule => exact ih.cons_cons name

end Fields

/-! ## Collections -/

section Parts

variable {name : Key} {raw : Named Document} {acc c : CollectionRules}

/-- One step through a collection's part: actions are skipped, what stands under `*` becomes the
field rules, and anything else the rules of a record. -/
theorem compileSections_cons {f : String × Document} (h : compileSections registry name acc (f :: raw) = .ok c) :
    (isActionKey f.1 = true ∧ compileSections registry name acc raw = .ok c) ∨
      isActionKey f.1 = false ∧ ∃ path part fields, f.2.part? = some part ∧
        compileFields registry path part = .ok fields ∧
        ((f.1 = wildcard ∧ compileSections registry name { acc with fields } raw = .ok c) ∨
          (f.1 ≠ wildcard ∧ ∃ actions, compileActions registry path part = .ok actions ∧
            compileSections registry name { acc with records := acc.records.put f.1 ⟨actions, fields⟩ } raw =
              .ok c)) := by
  unfold compileSections at h
  split at h
  · rename_i haction
    exact Or.inl ⟨haction, h⟩
  rename_i haction
  refine Or.inr ⟨Bool.eq_false_iff.mpr haction, ?_⟩
  split at h
  · cases h
  dsimp only at h
  split at h
  · rename_i part hpart
    split at h
    · rename_i hwild
      split at h
      · cases h
      · rename_i fields hfields
        exact ⟨_, part, fields, hpart, hfields, Or.inl ⟨hwild, h⟩⟩
    · rename_i hwild
      split at h
      · cases h
      rename_i actions hactions
      split at h
      · cases h
      · rename_i fields hfields
        exact ⟨_, part, fields, hpart, hfields, Or.inr ⟨hwild, actions, hactions, h⟩⟩
  · cases h

/-- The action rules of a collection are those that it began with. -/
theorem actions_compileSections (h : compileSections registry name acc raw = .ok c) : c.actions = acc.actions := by
  induction raw generalizing acc with
  | nil =>
    cases h
    rfl
  | cons f rest ih =>
    rcases compileSections_cons h with ⟨-, h⟩ | ⟨-, path, part, fields, -, -, ⟨-, h⟩ | ⟨-, actions, -, h⟩⟩
    · exact ih h
    · exact (ih h).trans rfl
    · exact (ih h).trans rfl

theorem fields_compileSections_of_none (hk : raw.get? wildcard = none)
    (h : compileSections registry name acc raw = .ok c) : c.fields = acc.fields := by
  induction raw generalizing acc with
  | nil =>
    cases h
    rfl
  | cons f rest ih =>
    rw [Keyed.get?_cons] at hk
    split at hk
    · cases hk
    rename_i hne
    rcases compileSections_cons h with ⟨-, h⟩ | ⟨-, path, part, fields, -, -, ⟨hwild, -⟩ | ⟨-, actions, -, h⟩⟩
    · exact ih hk h
    · exact absurd (by simp [hwild]) hne
    · exact (ih hk h).trans rfl

/-- The field rules of a collection are compiled from what stands under `*` in its part. -/
theorem fields_compileSections (hn : raw.names.Nodup) {d : Document} (hd : raw.get? wildcard = some d)
    (h : compileSections registry name acc raw = .ok c) :
    ∃ path part, d.part? = some part ∧ compileFields registry path part = .ok c.fields := by
  induction raw generalizing acc with
  | nil => cases hd
  | cons f rest ih =>
    obtain ⟨hf, hrest⟩ := List.nodup_cons.mp hn
    rw [Keyed.get?_cons] at hd
    by_cases hhere : f.1 = wildcard
    · obtain rfl : f.2 = d := by simpa [hhere] using hd
      have hone : wildcard ∉ Keyed.names rest := hhere ▸ hf
      rcases compileSections_cons h with ⟨haction, -⟩ | ⟨-, path, part, fields, hpart, hfields, ⟨-, h⟩ | ⟨hne, -⟩⟩
      · rw [hhere] at haction
        cases haction
      · refine ⟨path, part, hpart, ?_⟩
        rw [fields_compileSections_of_none (Keyed.get?_eq_none_iff.mpr hone) h]
        exact hfields
      · exact absurd hhere hne
    · rw [if_neg (by simpa using hhere)] at hd
      rcases compileSections_cons h with ⟨-, h⟩ | ⟨-, path, part, fields, -, -, ⟨hwild, -⟩ | ⟨-, actions, -, h⟩⟩
      · exact ih hrest hd h
      · exact absurd hwild hhere
      · exact ih hrest hd h

theorem names_nodup_compileSections (ha : acc.records.names.Nodup)
    (h : compileSections registry name acc raw = .ok c) : c.records.names.Nodup := by
  induction raw generalizing acc with
  | nil =>
    cases h
    exact ha
  | cons f rest ih =>
    rcases compileSections_cons h with ⟨-, h⟩ | ⟨-, path, part, fields, -, -, ⟨-, h⟩ | ⟨-, actions, -, h⟩⟩
    · exact ih ha h
    · refine ih ?_ h
      exact ha
    · exact ih (Keyed.nodup_names_put ha _ _) h

section Records

variable {id : String}

theorem records_compileSections_of_none (hk : raw.get? id = none ∨ isActionKey id = true ∨ id = wildcard)
    (h : compileSections registry name acc raw = .ok c) : c.records.get? id = acc.records.get? id := by
  induction raw generalizing acc with
  | nil =>
    cases h
    rfl
  | cons f rest ih =>
    have hrest : Keyed.get? rest id = none ∨ isActionKey id = true ∨ id = wildcard := hk.imp_left fun hnone => by
      rw [Keyed.get?_cons] at hnone
      split at hnone
      · cases hnone
      · exact hnone
    rcases compileSections_cons h with ⟨-, h⟩ | ⟨haction, path, part, fields, -, -, ⟨-, h⟩ | ⟨hne, actions, -, h⟩⟩
    · exact ih hrest h
    · exact (ih hrest h).trans rfl
    · have hother : id ≠ f.1 := by
        rintro rfl
        rcases hk with hnone | hkey | hwild
        · rw [Keyed.get?_cons, if_pos (beq_self_eq_true _)] at hnone
          cases hnone
        · rw [haction] at hkey
          cases hkey
        · exact hne hwild
      rw [ih hrest h, Keyed.get?_put_of_ne _ hother]

/-- The rules of a record are compiled from what stands under its id in the collection's part. -/
theorem records_compileSections (hn : raw.names.Nodup) (haction : isActionKey id = false) (hwild : id ≠ wildcard)
    {d : Document} (hd : raw.get? id = some d) (h : compileSections registry name acc raw = .ok c) :
    ∃ (path : String) (part : Part) (r : RecordRules), d.part? = some part ∧
      compileActions registry path part = .ok r.actions ∧
      compileFields registry path part = .ok r.fields ∧ c.records.get? id = some r := by
  induction raw generalizing acc with
  | nil => cases hd
  | cons f rest ih =>
    obtain ⟨hf, hrest⟩ := List.nodup_cons.mp hn
    rw [Keyed.get?_cons] at hd
    by_cases hhere : f.1 = id
    · subst hhere
      obtain rfl : f.2 = d := by simpa using hd
      rcases compileSections_cons h with ⟨hkey, -⟩ | ⟨-, path, part, fields, hpart, hfields, ⟨hw, -⟩ | ⟨-, actions, hactions, h⟩⟩
      · rw [haction] at hkey
        cases hkey
      · exact absurd hw hwild
      · refine ⟨path, part, ⟨actions, fields⟩, hpart, hactions, hfields, ?_⟩
        rw [records_compileSections_of_none (.inl (Keyed.get?_eq_none_iff.mpr hf)) h,
          Keyed.get?_put_self _ (beq_self_eq_true _)]
    · rw [if_neg (by simpa using hhere)] at hd
      rcases compileSections_cons h with ⟨-, h⟩ | ⟨-, path, part, fields, -, -, ⟨-, h⟩ | ⟨-, actions, -, h⟩⟩
      · exact ih hrest hd h
      · exact ih hrest hd h
      · exact ih hrest hd h

end Records

end Parts

/-! ## Documents -/

section Documents

variable {raw : List (Key × Document)} {acc rules : Rules}

/-- One step through a document: the part under `*` is put over the defaults, any other is
put among the collections. -/
theorem compileInto_cons {f : Key × Document} (h : compileInto registry acc (f :: raw) = .ok rules) :
    ∃ part, f.2.part? = some part ∧
      (((f.1 == wildcard) = true ∧ ∃ actions, compileActions registry f.1 part = .ok actions ∧
          compileInto registry { acc with defaults := acc.defaults.overlay actions } raw = .ok rules) ∨
        ((f.1 == wildcard) = false ∧ ∃ c, compileCollection registry f.1 part = .ok c ∧
          compileInto registry { acc with collections := acc.collections.put f.1 c } raw = .ok rules)) := by
  unfold compileInto at h
  split at h
  · rename_i part hpart
    refine ⟨part, hpart, ?_⟩
    split at h
    · rename_i hw
      split at h
      · cases h
      · rename_i actions hactions
        exact Or.inl ⟨hw, actions, hactions, h⟩
    · rename_i hw
      split at h
      · cases h
      · rename_i c hc
        exact Or.inr ⟨Bool.eq_false_iff.mpr hw, c, hc, h⟩
  · exact absurd h (bind_error_ne_ok _ _ _)

def CompiledFrom (registry : Registry) (m : Key × Document) (c : Key × CollectionRules) : Prop :=
  c.1 = m.1 ∧ ∃ part, m.2.part? = some part ∧ compileCollection registry m.1 part = .ok c.2

/-- Where the keys of a document differ, its collections are compiled one after the other. -/
theorem collections_compileInto (hd : raw.Pairwise fun a b => (a.1 == b.1) = false)
    (h : compileInto registry acc raw = .ok rules)
    (hfresh : ∀ c ∈ acc.collections, ∀ m ∈ raw, (c.1 == m.1) = false) :
    ∃ cs, rules.collections = acc.collections ++ cs ∧
      List.Forall₂ (CompiledFrom registry) (Keyed.erase raw (.text wildcard)) cs := by
  induction raw generalizing acc with
  | nil =>
    cases h
    exact ⟨[], (List.append_nil _).symm, .nil⟩
  | cons f rest ih =>
    obtain ⟨hf, hrest⟩ := List.pairwise_cons.mp hd
    have hothers : ∀ c ∈ acc.collections, ∀ m ∈ rest, (c.1 == m.1) = false :=
      fun c hc m hm => hfresh c hc m (List.mem_cons_of_mem f hm)
    obtain ⟨part, hpart, ⟨hw, actions, -, h⟩ | ⟨hw, c, hc, h⟩⟩ := compileInto_cons h
    · obtain ⟨cs, hcs, hall⟩ := ih hrest h hothers
      refine ⟨cs, hcs, ?_⟩
      rw [Keyed.erase, List.filter_cons_of_neg (by simp [hw])]
      exact hall
    · have hnew : acc.collections.get? f.1 = none :=
        Keyed.get?_eq_none_of_forall fun c hc => hfresh c hc f List.mem_cons_self
      have hput : acc.collections.put f.1 c = acc.collections ++ [(f.1, c)] := Keyed.put_of_get?_none hnew c
      rw [hput] at h
      have hfresh' : ∀ c' ∈ acc.collections ++ [(f.1, c)], ∀ m ∈ rest, (c'.1 == m.1) = false := by
        intro c' hc' m hm
        rcases List.mem_append.mp hc' with hc' | hc'
        · exact hothers c' hc' m hm
        · rw [List.mem_singleton.mp hc']
          exact hf m hm
      obtain ⟨cs, hcs, hall⟩ := ih hrest h hfresh'
      refine ⟨(f.1, c) :: cs, by rw [hcs, List.append_assoc]; rfl, ?_⟩
      rw [Keyed.erase, List.filter_cons_of_pos (by simp [hw])]
      exact .cons ⟨rfl, part, hpart, hc⟩ hall

theorem defaults_compileInto_of_none (hk : Keyed.get? raw (.text wildcard) = none)
    (h : compileInto registry acc raw = .ok rules) : rules.defaults = acc.defaults := by
  induction raw generalizing acc with
  | nil =>
    cases h
    rfl
  | cons f rest ih =>
    rw [Keyed.get?_cons] at hk
    split at hk
    · cases hk
    rename_i hne
    obtain ⟨part, -, ⟨hw, -⟩ | ⟨-, c, -, h⟩⟩ := compileInto_cons h
    · exact absurd hw hne
    · exact (ih hk h).trans rfl

/-- The part of a document under `*` is put over the rules for all collections. -/
theorem defaults_compileInto (hn : raw.Pairwise fun a b => (a.1 == b.1) = false) {d : Document}
    (hd : Keyed.get? raw (.text wildcard) = some d) (h : compileInto registry acc raw = .ok rules) :
    ∃ part actions, d.part? = some part ∧ compileActions registry wildcard part = .ok actions ∧
      rules.defaults = acc.defaults.overlay actions := by
  induction raw generalizing acc with
  | nil => cases hd
  | cons f rest ih =>
    obtain ⟨hf, hrest⟩ := List.pairwise_cons.mp hn
    rw [Keyed.get?_cons] at hd
    obtain ⟨part, hpart, ⟨hw, actions, hactions, hafter⟩ | ⟨hw, c, -, hafter⟩⟩ := compileInto_cons h
    · obtain ⟨key, value⟩ := f
      obtain rfl : key = .text wildcard := Key.eq_of_beq_text hw
      rw [if_pos hw] at hd
      cases hd
      have hone : Keyed.get? rest (.text wildcard) = none :=
        Keyed.get?_eq_none_of_forall fun m hm => (Key.beq_text_comm m.1 wildcard).trans (hf m hm)
      refine ⟨part, actions, hpart, hactions, ?_⟩
      rw [defaults_compileInto_of_none hone hafter]
    · rw [if_neg (by rw [hw]; exact Bool.false_ne_true)] at hd
      obtain ⟨part', actions, hpart', hactions, hdefaults⟩ := ih hrest hd hafter
      exact ⟨part', actions, hpart', hactions, hdefaults⟩

end Documents

end DocumentStore.Rule
