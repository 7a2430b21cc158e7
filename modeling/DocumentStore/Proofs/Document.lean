/-
  DocumentStore.Proofs.Document — what holds of every rule of a document.

  Rules get into an engine by `compile` or are there from the start. So what holds of those
  from the start, of those made in code and of all that `compile` gives holds of every rule of
  an accepted document (`forall_ofDocument`), and of every rule that a call is decided by
  (`forall_resolve`). With the built-in registry such a property is `isBuiltIn`: no rule asks a
  predicate of somebody else's making (`isBuiltIn_ofDocument`).

  A part of an accepted document has names that are texts (`Part.members_eq`).
-/

import DocumentStore.Proofs.Named
import DocumentStore.Proofs.Result
import DocumentStore.Rule.Gate

namespace DocumentStore

namespace Rule

/-! ## Every rule -/

def ActionRules.Forall (P : Rule → Prop) (actions : ActionRules) : Prop := ∀ f ∈ actions, P f.2

def FieldRules.Forall (P : Rule → Prop) (fields : FieldRules) : Prop :=
  ∀ f ∈ fields, ActionRules.Forall P f.2

structure RecordRules.Forall (P : Rule → Prop) (r : RecordRules) : Prop where
  actions : ActionRules.Forall P r.actions
  fields : FieldRules.Forall P r.fields

structure CollectionRules.Forall (P : Rule → Prop) (c : CollectionRules) : Prop where
  actions : ActionRules.Forall P c.actions
  fields : FieldRules.Forall P c.fields
  records : ∀ f ∈ c.records, f.2.Forall P

structure Rules.Forall (P : Rule → Prop) (rules : Rules) : Prop where
  defaults : ActionRules.Forall P rules.defaults
  collections : ∀ f ∈ rules.collections, f.2.Forall P

/-! ## Refusals -/

section Refusals

variable {α β : Type} (a : α)

theorem bind_error_ne_ok (x : Except Failure β) (why : β → Failure) : (x.bind fun b => .error (why b)) ≠ .ok a := by
  cases x <;> exact fun h => nomatch h

theorem refuse_ne_ok (why : String → RuleFault) (d : Draft) : refuse why d ≠ .ok a := bind_error_ne_ok _ _ _

theorem refuseAt_ne_ok (place : Key) (why : String → RuleFault) : refuseAt place why ≠ .ok a :=
  bind_error_ne_ok _ _ _

end Refusals

/-! ## Names -/

section Parts

variable {α : Type} {part : Part} {walk : Except Failure α} {a : α}

theorem Part.through_eq_ok_iff : part.through walk = .ok a ↔ part.stop = none ∧ walk = .ok a := by
  unfold through
  cases walk with
  | error f => simp
  | ok b => cases part.stop <;> simp

theorem Part.mem_members {members : List (Key × Document)} {f : String × Document}
    (h : f ∈ (ofMembers members).members) : (.text f.1, f.2) ∈ members := by
  induction members with
  | nil => exact absurd h List.not_mem_nil
  | cons m rest ih =>
    obtain ⟨key, d⟩ := m
    cases key with
    | text name =>
      rcases List.mem_cons.mp h with rfl | h
      · exact List.mem_cons_self
      · exact List.mem_cons_of_mem _ (ih h)
    | _ => exact absurd h List.not_mem_nil

/-- Where no name stops the reading, every member is read. -/
theorem Part.members_eq {members : List (Key × Document)} (h : (ofMembers members).stop = none) :
    members = (ofMembers members).members.map fun f => (.text f.1, f.2) := by
  induction members with
  | nil => rfl
  | cons m rest ih =>
    obtain ⟨key, d⟩ := m
    cases key with
    | text name => exact congrArg ((Key.text name, d) :: ·) (ih h)
    | _ => cases h

theorem compileActions_eq_ok_iff {registry : Registry} {place : Key} {actions : ActionRules} :
    compileActions registry place part = .ok actions ↔
      part.stop = none ∧ compileActionsInto registry place [] part.members = .ok actions := Part.through_eq_ok_iff

theorem compileFields_eq_ok_iff {registry : Registry} {path : String} {fields : FieldRules} :
    compileFields registry path part = .ok fields ↔
      part.stop = none ∧ compileEachField registry path part.members = .ok fields := Part.through_eq_ok_iff

end Parts

/-! ## Rules made in code -/

namespace Document

mutual

/-- The rules made in code that stand in a document. -/
def made : Document → List Rule
  | .object members => madeMembers members
  | .rule r _ => [r]
  | _ => []

def madeMembers : List (Key × Document) → List Rule
  | [] => []
  | (_, d) :: ms => made d ++ madeMembers ms

end

theorem made_of_mem {members : List (Key × Document)} {m : Key × Document} (hm : m ∈ members) {rule : Rule}
    (hr : rule ∈ m.2.made) : rule ∈ madeMembers members := by
  induction members with
  | nil => exact absurd hm List.not_mem_nil
  | cons first rest ih =>
    obtain ⟨key, d⟩ := first
    rw [madeMembers, List.mem_append]
    rcases List.mem_cons.mp hm with rfl | hm
    · exact Or.inl hr
    · exact Or.inr (ih hm)

/-- What is made in a part of a document is made in the document. -/
theorem made_of_part {d : Document} {part : Part} (hpart : d.part? = some part) {f : String × Document}
    (hf : f ∈ part.members) {rule : Rule} (hr : rule ∈ f.2.made) : rule ∈ d.made := by
  cases d with
  | object members =>
    cases hpart
    rw [made]
    exact made_of_mem (Part.mem_members hf) hr
  | _ => cases hpart

end Document

/-! ## Compiling -/

def MadeIn (P : Rule → Prop) (raw : Named Document) : Prop := ∀ f ∈ raw, ∀ rule ∈ f.2.made, P rule

theorem MadeIn.of_part {P : Rule → Prop} {d : Document} {part : Part} (h : ∀ rule ∈ d.made, P rule)
    (hpart : d.part? = some part) : MadeIn P part.members :=
  fun _ hf rule hr => h rule (Document.made_of_part hpart hf hr)

section Compiling

variable {P : Rule → Prop} {registry : Registry}
  (hP : ∀ (d : Document) rule, (∀ r ∈ d.made, P r) → compile registry d = .ok rule → P rule)
include hP

theorem forall_compileActionsInto {place : Key} {raw : Named Document} {acc actions : ActionRules}
    (hm : MadeIn P raw) (ha : ActionRules.Forall P acc)
    (h : compileActionsInto registry place acc raw = .ok actions) : ActionRules.Forall P actions := by
  induction raw generalizing acc with
  | nil =>
    cases h
    exact ha
  | cons f rest ih =>
    obtain ⟨hhere, hrest⟩ := List.forall_mem_cons.mp hm
    unfold compileActionsInto at h
    split at h
    · split at h
      · exact absurd h (refuseAt_ne_ok _ _ _)
      split at h
      · exact ih hrest ha h
      split at h
      · cases h
      · rename_i rule hrule
        exact ih hrest (Keyed.forall_put ha (hP _ rule hhere hrule)) h
    · exact ih hrest ha h

theorem forall_compileActions {place : Key} {part : Part} {actions : ActionRules} (hm : MadeIn P part.members)
    (h : compileActions registry place part = .ok actions) : ActionRules.Forall P actions :=
  forall_compileActionsInto hP hm (fun _ hm => absurd hm List.not_mem_nil) (compileActions_eq_ok_iff.mp h).2

theorem forall_compileEachField {path : String} {raw : Named Document} {fields : FieldRules} (hm : MadeIn P raw)
    (h : compileEachField registry path raw = .ok fields) : FieldRules.Forall P fields := by
  induction raw generalizing fields with
  | nil =>
    cases h
    exact fun _ hm => absurd hm List.not_mem_nil
  | cons f rest ih =>
    obtain ⟨hhere, hrest⟩ := List.forall_mem_cons.mp hm
    unfold compileEachField at h
    split at h
    · exact ih hrest h
    split at h
    · rename_i part hpart
      split at h
      · cases h
      · rename_i actions hactions
        obtain ⟨others, hothers, rfl⟩ := Result.map_eq_ok.mp h
        intro g hg
        rcases List.mem_cons.mp hg with rfl | hg
        · exact forall_compileActions hP (.of_part hhere hpart) hactions
        · exact ih hrest hothers g hg
    · cases h

theorem forall_compileFields {path : String} {part : Part} {fields : FieldRules} (hm : MadeIn P part.members)
    (h : compileFields registry path part = .ok fields) : FieldRules.Forall P fields :=
  forall_compileEachField hP hm (compileFields_eq_ok_iff.mp h).2

theorem forall_compileSections {name : Key} {raw : Named Document} {acc c : CollectionRules} (hm : MadeIn P raw)
    (ha : acc.Forall P) (h : compileSections registry name acc raw = .ok c) : c.Forall P := by
  induction raw generalizing acc with
  | nil =>
    cases h
    exact ha
  | cons f rest ih =>
    obtain ⟨hhere, hrest⟩ := List.forall_mem_cons.mp hm
    unfold compileSections at h
    split at h
    · exact ih hrest ha h
    split at h
    · cases h
    dsimp only at h
    split at h
    · rename_i part hpart
      have hpart := MadeIn.of_part hhere hpart
      split at h
      · split at h
        · cases h
        · rename_i fields hfields
          refine ih hrest ?_ h
          exact ⟨ha.actions, forall_compileFields hP hpart hfields, ha.records⟩
      · split at h
        · cases h
        rename_i actions hactions
        split at h
        · cases h
        · rename_i fields hfields
          have hrecord : RecordRules.Forall P ⟨actions, fields⟩ :=
            ⟨forall_compileActions hP hpart hactions, forall_compileFields hP hpart hfields⟩
          refine ih hrest ?_ h
          exact ⟨ha.actions, ha.fields, Keyed.forall_put ha.records hrecord⟩
    · cases h

theorem forall_compileCollection {name : Key} {part : Part} {c : CollectionRules} (hm : MadeIn P part.members)
    (h : compileCollection registry name part = .ok c) : c.Forall P := by
  unfold compileCollection at h
  split at h
  · cases h
  · rename_i actions hactions
    refine forall_compileSections hP hm ⟨forall_compileActions hP hm hactions, ?_, ?_⟩ h
    · exact fun _ hm => absurd hm List.not_mem_nil
    · exact fun _ hm => absurd hm List.not_mem_nil

theorem forall_compileInto {members : List (Key × Document)} {acc rules : Rules}
    (hm : ∀ m ∈ members, ∀ rule ∈ m.2.made, P rule) (ha : acc.Forall P)
    (h : compileInto registry acc members = .ok rules) : rules.Forall P := by
  induction members generalizing acc with
  | nil =>
    cases h
    exact ha
  | cons f rest ih =>
    obtain ⟨hhere, hrest⟩ := List.forall_mem_cons.mp hm
    unfold compileInto at h
    split at h
    · rename_i part hpart
      have hpart := MadeIn.of_part hhere hpart
      split at h
      · split at h
        · cases h
        · rename_i actions hactions
          refine ih hrest ?_ h
          exact ⟨Keyed.forall_overlay ha.defaults (forall_compileActions hP hpart hactions), ha.collections⟩
      · split at h
        · cases h
        · rename_i c hc
          refine ih hrest ?_ h
          exact ⟨ha.defaults, Keyed.forall_put ha.collections (forall_compileCollection hP hpart hc)⟩
    · exact absurd h (bind_error_ne_ok _ _ _)

/-- What holds of the rules that are there from the start, of those made in code, and of every rule that is
compiled, holds of every rule of a document. -/
theorem forall_ofDocument (hd : P (.roles [.user])) {document : Document} {rules : Rules}
    (hm : ∀ rule ∈ document.made, P rule) (h : Rules.ofDocument registry document = .ok rules) : rules.Forall P := by
  unfold Rules.ofDocument at h
  split at h
  · rename_i members
    rw [Document.made] at hm
    refine forall_compileInto hP (fun m hmem rule hr => hm rule (Document.made_of_mem hmem hr))
      ⟨?_, fun _ hm => absurd hm List.not_mem_nil⟩ h
    intro f hf
    simp only [Rules.builtIn, builtInDefaults, List.mem_cons, List.not_mem_nil, or_false] at hf
    rcases hf with rfl | rfl | rfl <;> exact hd
  · cases h

end Compiling

/-! ## Resolving -/

section Resolving

variable {P : Rule → Prop}

theorem forall_getD {action : Action} {actions : ActionRules} {rule : Rule} (ha : ActionRules.Forall P actions)
    (hr : P rule) : P ((actions.get? action.key).getD rule) := by
  cases h : actions.get? action.key with
  | none => exact hr
  | some r => exact ha _ (Keyed.mem_of_get? h)

theorem forall_fieldRulesFor {action : Action} {fields : FieldRules} (hf : FieldRules.Forall P fields) :
    ∀ f ∈ fieldRulesFor action fields, P f.2 := by
  intro f hm
  obtain ⟨⟨field, actions⟩, hg, he⟩ := List.mem_filterMap.mp hm
  obtain ⟨rule, hr, rfl⟩ := Option.map_eq_some_iff.mp he
  have hmem : (action.key, rule) ∈ actions := Keyed.mem_of_get? hr
  exact hf (field, actions) hg (action.key, rule) hmem

theorem forall_collectionRules {rules : Rules} (h : rules.Forall P) {collection : Option String}
    {c : CollectionRules} (hc : rules.collectionRules collection = some c) : c.Forall P := by
  unfold Rules.collectionRules at hc
  split at hc
  · cases hc
  split at hc
  · cases hc
  · exact Keyed.forall_of_get? h.collections hc

/-- What holds of every rule, and of leave, holds of the rules that decide a call. -/
theorem forall_resolve {rules : Rules} (h : rules.Forall P) (hallow : P .allow) {action : Action}
    {collection : Option String} {record : Option Record} {resolved : Resolved}
    (hr : rules.resolve action collection record = .ok resolved) :
    P resolved.rule ∧ ∀ f ∈ resolved.fields, P f.2 := by
  have hdefault : P (rules.default action) := forall_getD h.defaults hallow
  unfold Rules.resolve at hr
  split at hr
  · cases hr
    exact ⟨hdefault, fun _ hm => absurd hm List.not_mem_nil⟩
  rename_i c hc
  have hcoll := forall_collectionRules h hc
  have hrule : P ((c.actions.get? action.key).getD (rules.default action)) :=
    forall_getD hcoll.actions hdefault
  obtain ⟨id, -, rfl⟩ := Result.map_eq_ok.mp hr
  unfold CollectionRules.resolve
  dsimp only
  split
  · exact ⟨hrule, forall_fieldRulesFor hcoll.fields⟩
  · rename_i r hr
    obtain ⟨id, -, hid⟩ := Option.bind_eq_some_iff.mp hr
    have hrec := hcoll.records _ (Keyed.mem_of_get? hid)
    exact ⟨forall_getD hrec.actions hrule,
      Keyed.forall_overlay (forall_fieldRulesFor hcoll.fields) (forall_fieldRulesFor hrec.fields)⟩

end Resolving

/-! ## Built-in predicates only -/

def isBuiltIn : Rule → Bool
  | .named _ _ p => p.builtInName?.isSome
  | _ => true

theorem builtInName?_of_mem {f : String × Predicate} (h : f ∈ Registry.builtIn) :
    f.2.builtInName?.isSome = true := by
  simp only [Registry.builtIn, List.mem_cons, List.not_mem_nil, or_false] at h
  rcases h with rfl | rfl | rfl | rfl <;> rfl

theorem isBuiltIn_ofPredicate {negated : Bool} {name : String} {rule : Rule}
    (h : ofPredicate .builtIn negated name = .ok rule) : rule.isBuiltIn = true := by
  unfold ofPredicate at h
  split at h
  · cases h
  · cases h
    split <;> rfl
  · rename_i p _ hp
    cases h
    exact builtInName?_of_mem (Keyed.mem_of_get? hp)

theorem isBuiltIn_compileExpression {text : String} {rule : Rule}
    (h : compileExpression .builtIn text = .ok rule) : rule.isBuiltIn = true := by
  unfold compileExpression at h
  split at h
  · cases h
  split at h
  · split at h
    · cases h
    · cases h
      split <;> rfl
  split at h
  · cases h
  · exact isBuiltIn_ofPredicate h
  · split at h
    · cases h
    · exact isBuiltIn_ofPredicate h

theorem isBuiltIn_compile (d : Document) (rule : Rule) (hm : ∀ r ∈ d.made, r.isBuiltIn = true)
    (h : compile .builtIn d = .ok rule) : rule.isBuiltIn = true := by
  have hroles : ∀ items, compileRoles items = .ok rule → rule.isBuiltIn = true := by
    intro items h
    unfold compileRoles at h
    split at h
    · cases h
      rfl
    · exact absurd h (refuse_ne_ok _ _ _)
  unfold compile at h
  split at h
  · cases h
    exact hm _ (by rw [Document.made]; exact List.mem_cons_self)
  · cases h
    split <;> rfl
  · exact hroles _ h
  · exact hroles _ h
  · exact isBuiltIn_compileExpression h
  · exact absurd h (refuse_ne_ok _ _ _)

def Document.isPlain (document : Document) : Bool := document.made.all isBuiltIn

/-- A plain document that is read with the built-in registry has rules on built-in predicates only. -/
theorem isBuiltIn_ofDocument {document : Document} {rules : Rules} (hplain : document.isPlain = true)
    (h : Rules.ofDocument .builtIn document = .ok rules) : rules.Forall fun rule => rule.isBuiltIn = true :=
  forall_ofDocument isBuiltIn_compile rfl (List.all_eq_true.mp hplain) h

end Rule

end DocumentStore
