/-
  DocumentStore.Proofs.Places — where a rule may stand in a document, and where it is found.

  A part of a document that is for all collections has rules under its actions. A part for one collection
  has four places for them (`Place`): its own actions, those of a field of all records, of one record, and of
  a field of that. At each the compiled rules are those that the part sets there, action by action, and there
  are none where it sets none (`CollectionOf.agreesAt`). The rules for all collections are over those from the
  start (`Rules.default_rel`).

  What is asked of a document is that no object in it has two keys that are equal; the keys themselves may be
  anything. Rules for a collection are had by a text (`Rules.collection_rel`), or by going through the members
  (`Rules.mem_document_of_mem`, `Rules.exists_mem_of_mem_document`).
-/

import DocumentStore.Proofs.Sections

namespace DocumentStore

namespace Rule

/-! ## Paths -/

namespace Document

mutual

/-- Whether no object has two keys that are equal, itself or within its members. -/
def keysDistinct : Document → Bool
  | .object members =>
    Decidable.decide (members.Pairwise fun a b => (a.1 == b.1) = false) && membersDistinct members
  | _ => true

def membersDistinct : List (Key × Document) → Bool
  | [] => true
  | (_, d) :: ms => keysDistinct d && membersDistinct ms

end

def members : Document → List (Key × Document)
  | .object members => members
  | _ => []

def under? : Document → List String → Option Document
  | d, [] => some d
  | d, name :: path =>
    match Keyed.get? d.members (.text name) with
    | some inner => inner.under? path
    | none => none

/-- What stands there, unless it counts as no rule. -/
def set? (document : Document) (path : List String) : Option Document :=
  (document.under? path).filter fun d => !isUnset d

structure Reads (d : Document) (part : Part) : Prop where
  members : d.members = part.members.map fun f => (.text f.1, f.2)
  nodup : part.members.names.Nodup
  distinct : ∀ f ∈ part.members, f.2.keysDistinct = true

section

variable {d found : Document} {name : String} {path : List String} {part : Part}

theorem keysDistinct_of_mem {members : List (Key × Document)} (h : membersDistinct members = true) :
    ∀ m ∈ members, m.2.keysDistinct = true := by
  induction members with
  | nil => exact fun _ hm => absurd hm List.not_mem_nil
  | cons m rest ih =>
    obtain ⟨key, d⟩ := m
    rw [membersDistinct, Bool.and_eq_true] at h
    exact List.forall_mem_cons.mpr ⟨h.1, ih h.2⟩

theorem keysDistinct_members (h : d.keysDistinct = true) :
    (d.members.Pairwise fun a b => (a.1 == b.1) = false) ∧ ∀ m ∈ d.members, m.2.keysDistinct = true := by
  cases d with
  | object ms =>
    rw [keysDistinct, Bool.and_eq_true, decide_eq_true_eq] at h
    exact ⟨h.1, keysDistinct_of_mem h.2⟩
  | _ => exact ⟨List.Pairwise.nil, List.forall_mem_nil _⟩

theorem reads_of_part (h : d.keysDistinct = true) (hpart : d.part? = some part) (hstop : part.stop = none) :
    d.Reads part := by
  cases d with
  | object ms =>
    cases hpart
    obtain ⟨hpairwise, hinner⟩ := keysDistinct_members h
    have hms : ms = (Part.ofMembers ms).members.map fun f => (.text f.1, f.2) := Part.members_eq hstop
    refine ⟨hms, ?_, fun f hf => hinner (.text f.1, f.2) (Part.mem_members hf)⟩
    have hnames : (Part.ofMembers ms).members.Pairwise fun a b => (Key.text a.1 == .text b.1) = false := by
      rw [← List.pairwise_map (f := fun f : String × Document => (Key.text f.1, f.2))
        (R := fun a b => (a.1 == b.1) = false), ← hms]
      exact hpairwise
    refine List.pairwise_map.mpr (hnames.imp fun {a b} hne => ?_)
    rwa [Key.text_beq_text, beq_eq_false_iff_ne] at hne
  | _ => cases hpart

theorem Reads.under? (h : d.Reads part) (name : String) : d.under? [name] = part.members.get? name := by
  have hget : Keyed.get? d.members (.text name) = part.members.get? name := by
    rw [h.members]
    induction part.members with
    | nil => rfl
    | cons f rest ih =>
      rw [List.map_cons, Keyed.get?_cons, Keyed.get?_cons, Key.text_beq_text, ih]
  rw [Document.under?, hget]
  cases part.members.get? name <;> rfl

theorem under?_append (d : Document) (path rest : List String) :
    d.under? (path ++ rest) = (d.under? path).bind (·.under? rest) := by
  induction path generalizing d with
  | nil => rfl
  | cons name path ih =>
    rw [List.cons_append, under?, under?]
    cases Keyed.get? d.members (.text name) with
    | none => rfl
    | some inner => exact ih inner

theorem under?_singleton (d : Document) (name : String) : d.under? [name] = Keyed.get? d.members (.text name) := by
  rw [under?]
  cases Keyed.get? d.members (.text name) <;> rfl

theorem set?_append (d : Document) (path rest : List String) :
    d.set? (path ++ rest) = (d.under? path).bind (·.set? rest) := by
  rw [set?, under?_append]
  cases d.under? path <;> rfl

end

end Document

/-! ## Places -/

/-- Where in its part of a document the rules of a collection stand. -/
inductive Place where
  | whole
  /-- A field of every record. -/
  | field (own : String)
  | record (id : String)
  | recordField (id own : String)
  deriving DecidableEq, Repr

namespace Place

def path : Place → List String
  | .whole => []
  | .field own => [wildcard, own]
  | .record id => [id]
  | .recordField id own => [id, own]

/-- The names are such that they lead to this place and to no other. -/
def Proper : Place → Prop
  | .whole => True
  | .field own => isActionKey own = false
  | .record id => id ≠ wildcard ∧ isActionKey id = false
  | .recordField id own => id ≠ wildcard ∧ isActionKey id = false ∧ isActionKey own = false

instance : (place : Place) → Decidable place.Proper
  | .whole => inferInstanceAs (Decidable True)
  | .field own => inferInstanceAs (Decidable (isActionKey own = false))
  | .record id => inferInstanceAs (Decidable (id ≠ wildcard ∧ isActionKey id = false))
  | .recordField id own =>
    inferInstanceAs (Decidable (id ≠ wildcard ∧ isActionKey id = false ∧ isActionKey own = false))

end Place

def CollectionRules.actionsAt (c : CollectionRules) : Place → Option ActionRules
  | .whole => some c.actions
  | .field own => c.fields.get? own
  | .record id => (c.records.get? id).map (·.actions)
  | .recordField id own => (c.records.get? id).bind (·.fields.get? own)

def CollectionRules.ruleAt (c : CollectionRules) (place : Place) (action : Action) : Option Rule :=
  (c.actionsAt place).bind (·.get? action.key)

section Rel

variable {α β γ δ : Type} {R : α → β → Prop} {a : Option α} {b : Option β}

theorem cases_of_rel (h : Option.Rel R a b) :
    (a = none ∧ b = none) ∨ ∃ x y, a = some x ∧ b = some y ∧ R x y := by
  cases h with
  | none => exact Or.inl ⟨rfl, rfl⟩
  | some h => exact Or.inr ⟨_, _, rfl, rfl, h⟩

theorem exists_of_rel {y : β} (h : Option.Rel R a (some y)) : ∃ x, a = some x ∧ R x y := by
  cases h with
  | some h => exact ⟨_, rfl, h⟩

theorem rel_bind {S : γ → δ → Prop} {f : α → Option γ} {g : β → Option δ} (h : Option.Rel R a b)
    (hfg : ∀ x y, R x y → Option.Rel S (f x) (g y)) : Option.Rel S (a.bind f) (b.bind g) := by
  cases h with
  | none => exact .none
  | some h => exact hfg _ _ h

theorem rel_map {S : α → γ → Prop} {g : β → γ} (h : Option.Rel R a b) (hg : ∀ x y, R x y → S x (g y)) :
    Option.Rel S a (b.map g) := by
  cases h with
  | none => exact .none
  | some h => exact .some (hg _ _ h)

end Rel

/-! ## What is compiled from a part of a document -/

section

variable {registry : Registry} {d document : Document} {rules : Rules} {c : CollectionRules} {r : RecordRules}
  {actions : ActionRules} {id field : String} {part : Part}

def ActionsOf (registry : Registry) (d : Document) (actions : ActionRules) : Prop :=
  ∃ place part, d.Reads part ∧ compileActions registry place part = .ok actions

def RecordOf (registry : Registry) (d : Document) (r : RecordRules) : Prop :=
  ∃ (path : String) (part : Part), d.Reads part ∧ compileActions registry path part = .ok r.actions ∧
    compileFields registry path part = .ok r.fields

def CollectionOf (registry : Registry) (d : Document) (c : CollectionRules) : Prop :=
  ∃ name part, d.Reads part ∧ compileCollection registry name part = .ok c

theorem actionsOf_of_part {place : Key} (hdistinct : d.keysDistinct = true) (hpart : d.part? = some part)
    (hc : compileActions registry place part = .ok actions) : ActionsOf registry d actions :=
  ⟨place, part, Document.reads_of_part hdistinct hpart (compileActions_eq_ok_iff.mp hc).1, hc⟩

theorem ActionsOf.rule_rel (h : ActionsOf registry d actions) (action : Action) :
    Option.Rel (fun value rule => compile registry value = .ok rule) (d.set? [action.key])
      (actions.get? action.key) := by
  obtain ⟨place, part, hreads, hc⟩ := h
  obtain ⟨-, hc⟩ := compileActions_eq_ok_iff.mp hc
  rw [Document.set?, hreads.under?]
  have hnone : (∀ f ∈ part.members, f.1 = action.key → isUnset f.2 = true) → actions.get? action.key = none :=
    fun hunset => get?_compileActionsInto_of_unset hunset hc
  cases hd : part.members.get? action.key with
  | none =>
    rw [hnone fun f hf hkey => absurd (hkey ▸ List.mem_map_of_mem hf) (Keyed.get?_eq_none_iff.mp hd)]
    exact .none
  | some value =>
    cases hset : isUnset value with
    | true =>
      rw [Option.filter_some_neg (by simp [hset]), hnone]
      · exact .none
      · intro f hf hkey
        have hvalue := Keyed.get?_of_mem hreads.nodup hf
        rw [hkey, hd] at hvalue
        rw [← Option.some.inj hvalue]
        exact hset
    | false =>
      obtain ⟨rule, hrule, hfound⟩ :=
        get?_compileActionsInto hreads.nodup (by cases action <;> decide) hd hset hc
      rw [Option.filter_some_pos (by simp [hset]), hfound]
      exact .some hrule

theorem mem_names_of_get? {α : Type} {fields : Named α} {own : String} {value : α} (h : fields.get? own = some value) :
    own ∈ fields.names := List.mem_map_of_mem (Keyed.mem_of_get? h)

/-- There are rules for actions alone, one for each. -/
structure IsActions (actions : ActionRules) : Prop where
  nodup : actions.names.Nodup
  keys : ∀ key ∈ actions.names, ∃ action : Action, key = action.key

theorem ActionsOf.isActions (h : ActionsOf registry d actions) : IsActions actions := by
  obtain ⟨place, part, -, hc⟩ := h
  obtain ⟨-, hc⟩ := compileActions_eq_ok_iff.mp hc
  constructor
  · refine names_nodup_compileActionsInto ?_ hc
    exact List.nodup_nil
  · refine keys_compileActionsInto ?_ hc
    exact List.forall_mem_nil _

/-- The rules of single fields are compiled from what stands under their names. -/
theorem fields_rel {path : String} {fields : FieldRules} (hreads : d.Reads part) (hfield : isActionKey field = false)
    (hc : compileFields registry path part = .ok fields) :
    Option.Rel (ActionsOf registry) (d.under? [field]) (fields.get? field) := by
  obtain ⟨-, hc⟩ := compileFields_eq_ok_iff.mp hc
  rw [hreads.under?]
  cases hget : fields.get? field with
  | none =>
    have hnot := Keyed.get?_eq_none_iff.mp hget
    rw [names_compileEachField hc, List.mem_filter, hfield, Bool.not_false, eq_self, and_true] at hnot
    rw [Keyed.get?_eq_none_iff.mpr hnot]
    exact .none
  | some actions =>
    obtain ⟨own, raw, hown, hraw, hactions⟩ := get?_compileEachField hfield hc hget
    rw [hown]
    exact .some (actionsOf_of_part (hreads.distinct _ (Keyed.mem_of_get? hown)) hraw hactions)

/-- Rules are there for fields alone, once for each. -/
theorem fields_names {path : String} {fields : FieldRules} (hreads : d.Reads part)
    (hc : compileFields registry path part = .ok fields) :
    fields.names.Nodup ∧ ∀ own ∈ fields.names, isActionKey own = false := by
  rw [names_compileEachField (compileFields_eq_ok_iff.mp hc).2]
  refine ⟨hreads.nodup.filter _, fun own hown => ?_⟩
  rw [List.mem_filter, Bool.not_eq_true'] at hown
  exact hown.2

theorem RecordOf.fields_names (h : RecordOf registry d r) :
    r.fields.names.Nodup ∧ ∀ own ∈ r.fields.names, isActionKey own = false := by
  obtain ⟨path, part, hreads, -, hfields⟩ := h
  exact Rule.fields_names hreads hfields

theorem RecordOf.actionsOf (h : RecordOf registry d r) : ActionsOf registry d r.actions := by
  obtain ⟨path, part, hreads, hactions, -⟩ := h
  exact ⟨path, part, hreads, hactions⟩

theorem RecordOf.field_rel (h : RecordOf registry d r) (hfield : isActionKey field = false) :
    Option.Rel (ActionsOf registry) (d.under? [field]) (r.fields.get? field) := by
  obtain ⟨path, part, hreads, -, hfields⟩ := h
  exact fields_rel hreads hfield hfields

theorem compileCollection_eq_ok {name : Key} (h : compileCollection registry name part = .ok c) :
    ∃ actions, compileActions registry name part = .ok actions ∧
      compileSections registry name ⟨actions, [], []⟩ part.members = .ok c := by
  unfold compileCollection at h
  split at h
  · cases h
  · rename_i actions hactions
    exact ⟨actions, hactions, h⟩

theorem CollectionOf.actionsOf (h : CollectionOf registry d c) : ActionsOf registry d c.actions := by
  obtain ⟨name, part, hreads, hc⟩ := h
  obtain ⟨actions, hactions, hsections⟩ := compileCollection_eq_ok hc
  rw [actions_compileSections hsections]
  exact ⟨name, part, hreads, hactions⟩

/-- The field rules of a collection are compiled from what its part has under `*`, if it has that. -/
theorem CollectionOf.fields_cases (h : CollectionOf registry d c) :
    (d.under? [wildcard] = none ∧ c.fields = []) ∨
      ∃ own path raw, d.under? [wildcard] = some own ∧ own.Reads raw ∧
        compileFields registry path raw = .ok c.fields := by
  obtain ⟨name, part, hreads, hc⟩ := h
  obtain ⟨actions, -, hsections⟩ := compileCollection_eq_ok hc
  rw [hreads.under?]
  cases hwild : part.members.get? wildcard with
  | none => exact Or.inl ⟨rfl, fields_compileSections_of_none hwild hsections⟩
  | some own =>
    obtain ⟨path, raw, hraw, hfields⟩ := fields_compileSections hreads.nodup hwild hsections
    have hown := hreads.distinct _ (Keyed.mem_of_get? hwild)
    exact Or.inr ⟨own, path, raw, rfl,
      Document.reads_of_part hown hraw (compileFields_eq_ok_iff.mp hfields).1, hfields⟩

theorem CollectionOf.field_rel (h : CollectionOf registry d c) (hfield : isActionKey field = false) :
    Option.Rel (ActionsOf registry) (d.under? [wildcard, field]) (c.fields.get? field) := by
  have hunder : d.under? [wildcard, field] = (d.under? [wildcard]).bind (·.under? [field]) :=
    Document.under?_append d [wildcard] [field]
  rw [hunder]
  rcases h.fields_cases with ⟨hnone, hfields⟩ | ⟨own, path, raw, hown, hreads, hfields⟩
  · rw [hnone, hfields]
    exact .none
  · rw [hown]
    exact fields_rel hreads hfield hfields

theorem CollectionOf.fields_names (h : CollectionOf registry d c) :
    c.fields.names.Nodup ∧ ∀ own ∈ c.fields.names, isActionKey own = false := by
  rcases h.fields_cases with ⟨-, hfields⟩ | ⟨own, path, raw, -, hreads, hfields⟩
  · rw [hfields]
    exact ⟨List.nodup_nil, List.forall_mem_nil _⟩
  · exact Rule.fields_names hreads hfields

theorem CollectionOf.record_rel (h : CollectionOf registry d c) (hid : isActionKey id = false) (hwild : id ≠ wildcard) :
    Option.Rel (RecordOf registry) (d.under? [id]) (c.records.get? id) := by
  obtain ⟨name, part, hreads, hc⟩ := h
  obtain ⟨actions, -, hsections⟩ := compileCollection_eq_ok hc
  rw [hreads.under?]
  cases hown : part.members.get? id with
  | none =>
    rw [records_compileSections_of_none (.inl hown) hsections]
    exact .none
  | some own =>
    obtain ⟨path, raw, r, hraw, hactions, hfields, hr⟩ := records_compileSections hreads.nodup hid hwild hown hsections
    have hdistinct := hreads.distinct _ (Keyed.mem_of_get? hown)
    rw [hr]
    exact .some ⟨path, raw, Document.reads_of_part hdistinct hraw (compileActions_eq_ok_iff.mp hactions).1, hactions,
      hfields⟩

/-- There are no rules for records by what is an action, or by the name of all. -/
theorem CollectionOf.records_proper (h : CollectionOf registry d c) (hr : c.records.get? id = some r) :
    id ≠ wildcard ∧ isActionKey id = false := by
  obtain ⟨name, part, -, hc⟩ := h
  obtain ⟨actions, -, hsections⟩ := compileCollection_eq_ok hc
  by_contra hnot
  have hk : part.members.get? id = none ∨ isActionKey id = true ∨ id = wildcard := by
    rw [not_and_or, not_not, Bool.not_eq_false] at hnot
    exact Or.inr hnot.symm
  rw [records_compileSections_of_none hk hsections] at hr
  cases hr

theorem RecordOf.isActions_field (h : RecordOf registry d r) {own : String} (hget : r.fields.get? own = some actions) :
    IsActions actions := by
  have hrel := h.field_rel (h.fields_names.2 own (mem_names_of_get? hget))
  rw [hget] at hrel
  obtain ⟨part, -, hactions⟩ := exists_of_rel hrel
  exact hactions.isActions

theorem CollectionOf.isActions_field (h : CollectionOf registry d c) {own : String}
    (hget : c.fields.get? own = some actions) : IsActions actions := by
  have hrel := h.field_rel (h.fields_names.2 own (mem_names_of_get? hget))
  rw [hget] at hrel
  obtain ⟨part, -, hactions⟩ := exists_of_rel hrel
  exact hactions.isActions

theorem CollectionOf.records_nodup (h : CollectionOf registry d c) : c.records.names.Nodup := by
  obtain ⟨name, part, -, hc⟩ := h
  obtain ⟨actions, -, hsections⟩ := compileCollection_eq_ok hc
  refine names_nodup_compileSections ?_ hsections
  exact List.nodup_nil

theorem CollectionOf.recordOf (h : CollectionOf registry d c) (hr : c.records.get? id = some r) :
    ∃ own, RecordOf registry own r := by
  obtain ⟨hwild, hid⟩ := h.records_proper hr
  have hrel := h.record_rel hid hwild
  rw [hr] at hrel
  obtain ⟨own, -, hrecord⟩ := exists_of_rel hrel
  exact ⟨own, hrecord⟩

/-! ## Rules of a collection -/

/-- What is compiled for a place are the rules that the part of the collection sets there. -/
theorem CollectionOf.actionsAt_rel (h : CollectionOf registry d c) {place : Place} (hproper : place.Proper) :
    Option.Rel (ActionsOf registry) (d.under? place.path) (c.actionsAt place) := by
  cases place with
  | whole => exact .some h.actionsOf
  | field own => exact h.field_rel hproper
  | record id =>
    obtain ⟨hwild, hid⟩ := hproper
    exact rel_map (h.record_rel hid hwild) fun _ _ hr => hr.actionsOf
  | recordField id own =>
    obtain ⟨hwild, hid, hown⟩ := hproper
    have hpath : d.under? [id, own] = (d.under? [id]).bind (·.under? [own]) := Document.under?_append d [id] [own]
    rw [Place.path, hpath]
    exact rel_bind (h.record_rel hid hwild) fun _ _ hr => hr.field_rel hown

/-- At every place, an action has the rule that the part of the collection sets, and none where it sets none. -/
theorem CollectionOf.agreesAt (h : CollectionOf registry d c) {place : Place} (hproper : place.Proper)
    (action : Action) :
    Option.Rel (fun value rule => compile registry value = .ok rule) (d.set? (place.path ++ [action.key]))
      (c.ruleAt place action) := by
  rw [Document.set?_append]
  exact rel_bind (h.actionsAt_rel hproper) fun _ _ hactions => hactions.rule_rel action

/-- Rules are compiled for proper places alone. -/
theorem CollectionOf.proper_of_actionsAt (h : CollectionOf registry d c) {place : Place}
    (hat : c.actionsAt place = some actions) : place.Proper := by
  cases place with
  | whole => trivial
  | field own => exact h.fields_names.2 own (mem_names_of_get? hat)
  | record id =>
    obtain ⟨r, hr, -⟩ := Option.map_eq_some_iff.mp hat
    exact h.records_proper hr
  | recordField id own =>
    obtain ⟨r, hr, hown⟩ := Option.bind_eq_some_iff.mp hat
    obtain ⟨hwild, hid⟩ := h.records_proper hr
    obtain ⟨part, hrecord⟩ := h.recordOf hr
    exact ⟨hwild, hid, hrecord.fields_names.2 own (mem_names_of_get? hown)⟩

/-! ## Rules of a document -/

theorem ofDocument_eq_ok (h : Rules.ofDocument registry document = .ok rules) :
    compileInto registry .builtIn document.members = .ok rules := by
  unfold Rules.ofDocument at h
  split at h
  · exact h
  · cases h

/-- The collections with rules are the members of the document but the one under `*`, in their order. -/
theorem Rules.collections_forall₂ (hdistinct : document.keysDistinct = true)
    (h : Rules.ofDocument registry document = .ok rules) :
    List.Forall₂ (fun m f => f.1 = m.1 ∧ CollectionOf registry m.2 f.2)
      (Keyed.erase document.members (.text wildcard)) rules.collections := by
  obtain ⟨hpairwise, hinner⟩ := Document.keysDistinct_members hdistinct
  obtain ⟨cs, hcs, hall⟩ := collections_compileInto hpairwise (ofDocument_eq_ok h) (List.forall_mem_nil _)
  rw [show rules.collections = cs from hcs]
  refine ((List.forall₂_and_left _ _).mpr ⟨fun m hm => hm, hall⟩).imp fun m f hm => ?_
  obtain ⟨hmem, hkey, part, hpart, hc⟩ := hm
  obtain ⟨actions, hactions, -⟩ := compileCollection_eq_ok hc
  have hstop := (compileActions_eq_ok_iff.mp hactions).1
  exact ⟨hkey, m.1, part, Document.reads_of_part (hinner m (Keyed.mem_erase.mp hmem).1) hpart hstop, hc⟩

theorem rel_get? {α β : Type} {R : α → β → Prop} {ms : Keyed Key α} {cs : Keyed Key β}
    (h : List.Forall₂ (fun m c => c.1 = m.1 ∧ R m.2 c.2) ms cs) (key : Key) :
    Option.Rel R (ms.get? key) (cs.get? key) := by
  induction h with
  | nil => exact .none
  | cons hmc _ ih =>
    obtain ⟨hkey, hr⟩ := hmc
    rw [Keyed.get?_cons, Keyed.get?_cons, hkey]
    split
    · exact .some hr
    · exact ih

theorem Rules.collection_rel (hdistinct : document.keysDistinct = true)
    (h : Rules.ofDocument registry document = .ok rules) {name : String} (hname : name ≠ wildcard) :
    Option.Rel (CollectionOf registry) (document.under? [name]) (rules.collections.get? (.text name)) := by
  have hne : Key.text name ≠ .text wildcard := fun e => hname (Key.text.inj e)
  rw [Document.under?_singleton, ← Key.get?_erase_of_ne document.members hne]
  exact rel_get? (Rules.collections_forall₂ hdistinct h) (.text name)

/-- Every collection with rules has a part in the document, by which it is called. -/
theorem Rules.mem_document_of_mem (hdistinct : document.keysDistinct = true)
    (h : Rules.ofDocument registry document = .ok rules) {f : Key × CollectionRules} (hf : f ∈ rules.collections) :
    (f.1 == wildcard) = false ∧ ∃ d, (f.1, d) ∈ document.members ∧ CollectionOf registry d f.2 := by
  obtain ⟨m, hm, hkey, hcollection⟩ := Result.exists_of_mem_right (Rules.collections_forall₂ hdistinct h) hf
  obtain ⟨hmem, hne⟩ := Keyed.mem_erase.mp hm
  rw [hkey]
  exact ⟨hne, m.2, hmem, hcollection⟩

/-- Every part of the document but the one under `*` has rules for the collection that it is called by. -/
theorem Rules.exists_mem_of_mem_document (hdistinct : document.keysDistinct = true)
    (h : Rules.ofDocument registry document = .ok rules) {m : Key × Document} (hm : m ∈ document.members)
    (hne : (m.1 == wildcard) = false) : ∃ c, (m.1, c) ∈ rules.collections ∧ CollectionOf registry m.2 c := by
  obtain ⟨f, hf, hkey, hcollection⟩ :=
    Result.exists_of_mem_right (Rules.collections_forall₂ hdistinct h).flip (Keyed.mem_erase.mpr ⟨hm, hne⟩)
  exact ⟨f.2, hkey ▸ hf, hcollection⟩

/-- The rules for all collections are those that the document sets, over those from the start. -/
theorem Rules.defaults_of_document (hdistinct : document.keysDistinct = true)
    (h : Rules.ofDocument registry document = .ok rules) :
    (document.under? [wildcard] = none ∧ rules.defaults = builtInDefaults) ∨
      ∃ d actions, document.under? [wildcard] = some d ∧ ActionsOf registry d actions ∧
        rules.defaults = builtInDefaults.overlay actions := by
  obtain ⟨hpairwise, hinner⟩ := Document.keysDistinct_members hdistinct
  have hc := ofDocument_eq_ok h
  rw [Document.under?_singleton]
  cases hd : Keyed.get? document.members (.text wildcard) with
  | none => exact Or.inl ⟨rfl, defaults_compileInto_of_none hd hc⟩
  | some d =>
    obtain ⟨part, actions, hpart, hactions, hdefaults⟩ := defaults_compileInto hpairwise hd hc
    have hdistinct' : d.keysDistinct = true :=
      Keyed.forall_of_get? (P := fun d : Document => d.keysDistinct = true) hinner hd
    exact Or.inr ⟨d, actions, rfl, actionsOf_of_part hdistinct' hpart hactions, hdefaults⟩

theorem IsActions.overlay {base changes : ActionRules} (hb : IsActions base) (hc : IsActions changes) :
    IsActions (base.overlay changes) where
  nodup := Keyed.nodup_names_overlay hb.nodup changes
  keys key hkey := by
    by_cases hchanged : key ∈ changes.names
    · exact hc.keys key hchanged
    · refine hb.keys key (not_not.mp fun hnot => ?_)
      refine Keyed.get?_eq_none_iff.mp ?_ hkey
      rw [Keyed.get?_overlay hc.nodup, Keyed.get?_eq_none_iff.mpr hchanged, Keyed.get?_eq_none_iff.mpr hnot]
      rfl

theorem isActions_builtInDefaults : IsActions builtInDefaults where
  nodup := by decide
  keys key hkey := by
    have hthree : key ∈ [Action.create.key, Action.update.key, Action.delete.key] := hkey
    simp only [List.mem_cons, List.not_mem_nil, or_false] at hthree
    rcases hthree with rfl | rfl | rfl <;> exact ⟨_, rfl⟩

theorem Rules.isActions_defaults (hdistinct : document.keysDistinct = true)
    (h : Rules.ofDocument registry document = .ok rules) : IsActions rules.defaults := by
  rcases Rules.defaults_of_document hdistinct h with ⟨-, hdefaults⟩ | ⟨d, actions, -, hactions, hdefaults⟩
  · rw [hdefaults]
    exact isActions_builtInDefaults
  · rw [hdefaults]
    exact isActions_builtInDefaults.overlay hactions.isActions

theorem Rules.default_rel (hdistinct : document.keysDistinct = true)
    (h : Rules.ofDocument registry document = .ok rules) (action : Action) :
    ∃ found, Option.Rel (fun value rule => compile registry value = .ok rule)
        (document.set? [wildcard, action.key]) found ∧
      rules.defaults.get? action.key = found.or (builtInDefaults.get? action.key) := by
  have hpath : document.set? [wildcard, action.key] = (document.under? [wildcard]).bind (·.set? [action.key]) :=
    Document.set?_append document [wildcard] [action.key]
  rw [hpath]
  rcases Rules.defaults_of_document hdistinct h with ⟨hnone, hdefaults⟩ | ⟨d, actions, hd, hactions, hdefaults⟩
  · rw [hnone, hdefaults]
    exact ⟨none, .none, rfl⟩
  · rw [hd, hdefaults]
    exact ⟨actions.get? action.key, hactions.rule_rel action, Keyed.get?_overlay hactions.isActions.nodup _ _⟩

end

end Rule

end DocumentStore
