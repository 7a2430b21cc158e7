/-
  DocumentStore.Proofs.Listing — the list of rules holds what the document sets, where a rule may stand.

  A document is refused for what it says, for a text of what is refused that cannot be written, or for a name in
  a part of it that is no text (`isRefusal_ofDocument`). Of one that is accepted, every value that it sets where
  a rule may stand (`Document.Sets`) is listed under its collection, whatever key that is called by, and beside
  these only the rules from the start that it leaves (`rules_are_listed`). What it sets under the name of an
  action anywhere else is passed over:
  - `rule_for_every_record_is_lost`: so a rule for reading under the name of all records of a collection is
    accepted, and neither listed nor in force.
-/

import DocumentStore.Proofs.Precedence

namespace DocumentStore

namespace Rule

/-! ## Refusals -/

namespace Document

mutual

/-- The kinds of what stands in a document as a name and is no text. -/
def kinds : Document → List String
  | .object members => memberKinds members
  | _ => []

def memberKinds : List (Key × Document) → List String
  | [] => []
  | (.text _, d) :: ms => kinds d ++ memberKinds ms
  | (key, d) :: ms => key.kind :: (kinds d ++ memberKinds ms)

end

theorem mem_memberKinds {members : List (Key × Document)} {m : Key × Document} (hm : m ∈ members) {kind : String}
    (hk : kind ∈ m.2.kinds) : kind ∈ memberKinds members := by
  induction members with
  | nil => exact absurd hm List.not_mem_nil
  | cons first rest ih =>
    obtain ⟨key, d⟩ := first
    have hin : kind ∈ kinds d ++ memberKinds rest := by
      rcases List.mem_cons.mp hm with rfl | hm
      · exact List.mem_append_left _ hk
      · exact List.mem_append_right _ (ih hm)
    cases key with
    | text name => exact hin
    | _ => exact List.mem_cons_of_mem _ hin

theorem stop_mem_memberKinds {members : List (Key × Document)} {kind : String}
    (h : (Part.ofMembers members).stop = some kind) : kind ∈ memberKinds members := by
  induction members with
  | nil => cases h
  | cons first rest ih =>
    obtain ⟨key, d⟩ := first
    cases key with
    | text name => exact List.mem_append_right _ (ih h)
    | _ =>
      cases h
      exact List.mem_cons_self

end Document

/-- The failure is that of a document that is refused: for what it says, for a text of what is refused that cannot
be written, or for a name of one of these kinds. -/
inductive IsRefusal (kinds : List String) : Failure → Prop
  | told (why : RuleFault) : IsRefusal kinds (.rules why)
  | unwritable (u : Unwritable) : IsRefusal kinds (u.failure .text)
  | name {kind : String} (h : kind ∈ kinds) : IsRefusal kinds (.nameKind kind)

section Refusals

variable {registry : Registry} {kinds : List String} {f : Failure}

theorem isRefusal_textUnless {fault : Option Unwritable} {text : String} (h : textUnless fault text = .error f) :
    IsRefusal kinds f := by
  unfold textUnless at h
  split at h <;> cases h
  exact .unwritable _

theorem isRefusal_bind {α β : Type} {x : Except Failure β} {why : β → RuleFault} (hx : ∀ g, x = .error g → IsRefusal kinds g)
    (h : (x.bind fun b => (.error (.rules (why b)) : Except Failure α)) = .error f) : IsRefusal kinds f := by
  rcases Result.bind_eq_error.mp h with hx' | ⟨b, -, hb⟩
  · exact hx f hx'
  · cases hb
    exact .told _

theorem isRefusal_refuse {α : Type} {why : String → RuleFault} {d : Draft} (h : refuse (α := α) why d = .error f) :
    IsRefusal kinds f := isRefusal_bind (fun _ => isRefusal_textUnless) h

theorem isRefusal_refuseAt {α : Type} {place : Key} {why : String → RuleFault}
    (h : refuseAt (α := α) place why = .error f) : IsRefusal kinds f := isRefusal_bind (fun _ => isRefusal_textUnless) h

theorem isRefusal_selectCall {text name : String} {p : Predicate} {arguments : List String}
    (h : selectCall text name p arguments = .error f) : IsRefusal kinds f := by
  unfold selectCall at h
  repeat' split at h
  all_goals cases h
  all_goals exact .told _

theorem isRefusal_ofPredicate {negated : Bool} {name : String} (h : ofPredicate registry negated name = .error f) :
    IsRefusal kinds f := by
  unfold ofPredicate at h
  repeat' split at h
  all_goals cases h
  exact .told _

theorem isRefusal_compileExpression {text : String} (h : compileExpression registry text = .error f) :
    IsRefusal kinds f := by
  unfold compileExpression at h
  split at h
  · cases h
    exact .told _
  split at h
  · split at h <;> cases h
    exact .told _
  split at h
  · cases h
    exact .told _
  · exact isRefusal_ofPredicate h
  split at h
  · rename_i hselect
    cases h
    exact isRefusal_selectCall hselect
  · exact isRefusal_ofPredicate h

theorem isRefusal_compileRoles {items : List Draft} (h : compileRoles items = .error f) : IsRefusal kinds f := by
  unfold compileRoles at h
  split at h
  · cases h
  · exact isRefusal_refuse h

theorem isRefusal_compile {d : Document} (h : compile registry d = .error f) : IsRefusal kinds f := by
  unfold compile at h
  split at h
  · cases h
  · cases h
  · exact isRefusal_compileRoles h
  · exact isRefusal_compileRoles h
  · exact isRefusal_compileExpression h
  · exact isRefusal_refuse h

structure Part.Within (part : Part) (kinds : List String) : Prop where
  stop : ∀ kind, part.stop = some kind → kind ∈ kinds
  members : ∀ f ∈ part.members, ∀ kind ∈ f.2.kinds, kind ∈ kinds

theorem Part.within_of_part {d : Document} (hd : ∀ kind ∈ d.kinds, kind ∈ kinds) {part : Part}
    (hpart : d.part? = some part) : part.Within kinds := by
  cases d with
  | object members =>
    cases hpart
    rw [Document.kinds] at hd
    exact ⟨fun kind hstop => hd kind (Document.stop_mem_memberKinds hstop),
      fun f hf kind hk => hd kind (Document.mem_memberKinds (Part.mem_members hf) hk)⟩
  | _ => cases hpart

theorem isRefusal_through {α : Type} {part : Part} {walk : Except Failure α} (hpart : part.Within kinds)
    (hwalk : ∀ g, walk = .error g → IsRefusal kinds g) (h : part.through walk = .error f) : IsRefusal kinds f := by
  unfold Part.through at h
  split at h
  · rename_i hstop
    cases h
    exact .name (hpart.stop _ hstop)
  · exact hwalk f h

theorem isRefusal_compileActionsInto {place : Key} {acc : ActionRules} {raw : Named Document}
    (h : compileActionsInto registry place acc raw = .error f) : IsRefusal kinds f := by
  induction raw generalizing acc with
  | nil => cases h
  | cons g rest ih =>
    unfold compileActionsInto at h
    split at h
    · split at h
      · exact isRefusal_refuseAt h
      split at h
      · exact ih h
      split at h
      · rename_i hcompile
        cases h
        exact isRefusal_compile hcompile
      · exact ih h
    · exact ih h

section Parts

variable {place : Key} {path : String} {part : Part} {raw : Named Document}

theorem isRefusal_compileActions (hpart : part.Within kinds) (h : compileActions registry place part = .error f) :
    IsRefusal kinds f := isRefusal_through hpart (fun _ => isRefusal_compileActionsInto) h

theorem isRefusal_compileEachField (hraw : ∀ g ∈ raw, ∀ kind ∈ g.2.kinds, kind ∈ kinds)
    (h : compileEachField registry path raw = .error f) : IsRefusal kinds f := by
  induction raw with
  | nil => cases h
  | cons g rest ih =>
    obtain ⟨hhere, hrest⟩ := List.forall_mem_cons.mp hraw
    unfold compileEachField at h
    split at h
    · exact ih hrest h
    split at h
    · rename_i part hpart
      split at h
      · rename_i hactions
        cases h
        exact isRefusal_compileActions (Part.within_of_part hhere hpart) hactions
      · exact ih hrest (Result.map_eq_error.mp h)
    · cases h
      exact .told _

theorem isRefusal_compileFields (hpart : part.Within kinds) (h : compileFields registry path part = .error f) :
    IsRefusal kinds f := isRefusal_through hpart (fun _ => isRefusal_compileEachField hpart.members) h

theorem isRefusal_compileSections {acc : CollectionRules} (hraw : ∀ g ∈ raw, ∀ kind ∈ g.2.kinds, kind ∈ kinds)
    (h : compileSections registry place acc raw = .error f) : IsRefusal kinds f := by
  induction raw generalizing acc with
  | nil => cases h
  | cons g rest ih =>
    obtain ⟨hhere, hrest⟩ := List.forall_mem_cons.mp hraw
    unfold compileSections at h
    split at h
    · exact ih hrest h
    split at h
    · rename_i hspelled
      cases h
      exact isRefusal_textUnless hspelled
    dsimp only at h
    split at h
    · rename_i part hpart
      have hpart := Part.within_of_part hhere hpart
      split at h
      · split at h
        · rename_i hfields
          cases h
          exact isRefusal_compileFields hpart hfields
        · exact ih hrest h
      · split at h
        · rename_i hactions
          cases h
          exact isRefusal_compileActions hpart hactions
        split at h
        · rename_i hfields
          cases h
          exact isRefusal_compileFields hpart hfields
        · exact ih hrest h
    · cases h
      exact .told _

theorem isRefusal_compileCollection (hpart : part.Within kinds)
    (h : compileCollection registry place part = .error f) : IsRefusal kinds f := by
  unfold compileCollection at h
  split at h
  · rename_i hactions
    cases h
    exact isRefusal_compileActions hpart hactions
  · exact isRefusal_compileSections hpart.members h

end Parts

theorem isRefusal_compileInto {acc : Rules} {members : List (Key × Document)}
    (hmembers : ∀ m ∈ members, ∀ kind ∈ m.2.kinds, kind ∈ kinds)
    (h : compileInto registry acc members = .error f) : IsRefusal kinds f := by
  induction members generalizing acc with
  | nil => cases h
  | cons g rest ih =>
    obtain ⟨hhere, hrest⟩ := List.forall_mem_cons.mp hmembers
    unfold compileInto at h
    split at h
    · rename_i part hpart
      have hpart := Part.within_of_part hhere hpart
      split at h
      · split at h
        · rename_i hactions
          cases h
          exact isRefusal_compileActions hpart hactions
        · exact ih hrest h
      · split at h
        · rename_i hcollection
          cases h
          exact isRefusal_compileCollection hpart hcollection
        · exact ih hrest h
    · exact isRefusal_bind (fun _ => isRefusal_textUnless) h

def Document.innerKinds (document : Document) : List String := document.members.flatMap fun m => m.2.kinds

theorem isRefusal_ofDocument {document : Document} (h : Rules.ofDocument registry document = .error f) :
    IsRefusal document.innerKinds f := by
  unfold Rules.ofDocument at h
  split at h
  · exact isRefusal_compileInto (fun m hm kind hk => List.mem_flatMap.mpr ⟨m, hm, hk⟩) h
  · cases h
    exact .told _

end Refusals

/-! ## The list -/

namespace Place

/-- Whom in a collection a rule for the place is for, as the list has it. -/
def scope : Place → String
  | .whole => ""
  | .field own => wildcard ++ "." ++ own
  | .record id => id
  | .recordField id own => id ++ "." ++ own

end Place

section Lists

variable {registry : Registry} {document d : Document} {rules : Rules} {c : CollectionRules} {r : RecordRules}
  {actions : ActionRules} {fields : FieldRules} {l : Listed}

theorem mem_flatMap_iff {α : Type} {of : Named α} (hn : of.names.Nodup) (g : String → α → List Listed) :
    l ∈ of.flatMap (fun f => g f.1 f.2) ↔ ∃ key value, of.get? key = some value ∧ l ∈ g key value := by
  rw [List.mem_flatMap]
  constructor
  · rintro ⟨f, hf, hl⟩
    exact ⟨f.1, f.2, Keyed.get?_of_mem hn hf, hl⟩
  · rintro ⟨key, value, hget, hl⟩
    exact ⟨(key, value), Keyed.mem_of_get? hget, hl⟩

theorem IsActions.mem_list (h : IsActions actions) (name : Key) (scope : String) :
    l ∈ listActions name scope actions ↔
      ∃ action rule, actions.get? (Action.key action) = some rule ∧ l = ⟨name, scope, action.key, rule⟩ := by
  rw [listActions, List.mem_map]
  constructor
  · rintro ⟨f, hf, rfl⟩
    obtain ⟨action, hkey⟩ := h.keys f.1 (List.mem_map_of_mem hf)
    exact ⟨action, f.2, hkey ▸ Keyed.get?_of_mem h.nodup hf, by rw [← hkey]⟩
  · rintro ⟨action, rule, hget, rfl⟩
    exact ⟨(action.key, rule), Keyed.mem_of_get? hget, rfl⟩

/-- The rules for fields that are listed are those of each field. -/
theorem mem_listFields (hn : fields.names.Nodup)
    (heach : ∀ own actions, fields.get? own = some actions → IsActions actions) (name : Key) (scope : String) :
    l ∈ listFields name scope fields ↔
      ∃ own action rule, (fields.get? own).bind (·.get? (Action.key action)) = some rule ∧
        l = ⟨name, scope ++ "." ++ own, action.key, rule⟩ := by
  have hflat : l ∈ listFields name scope fields ↔
      ∃ own actions, fields.get? own = some actions ∧ l ∈ listActions name (scope ++ "." ++ own) actions :=
    mem_flatMap_iff hn fun own actions => listActions name (scope ++ "." ++ own) actions
  rw [hflat]
  constructor
  · rintro ⟨own, actions, hget, hl⟩
    obtain ⟨action, rule, hrule, rfl⟩ := ((heach own actions hget).mem_list name _).mp hl
    exact ⟨own, action, rule, by rw [hget]; exact hrule, rfl⟩
  · rintro ⟨own, action, rule, hrule, rfl⟩
    obtain ⟨actions, hget, hrule⟩ := Option.bind_eq_some_iff.mp hrule
    exact ⟨own, actions, hget, ((heach own actions hget).mem_list name _).mpr ⟨action, rule, hrule, rfl⟩⟩

/-- The rules of a record that are listed are its own and those of its fields. -/
theorem RecordOf.mem_list (h : RecordOf registry d r) (name : Key) (id : String) :
    l ∈ listActions name id r.actions ++ listFields name id r.fields ↔
      (∃ action rule, r.actions.get? (Action.key action) = some rule ∧ l = ⟨name, id, action.key, rule⟩) ∨
        ∃ own action rule, (r.fields.get? own).bind (·.get? (Action.key action)) = some rule ∧
          l = ⟨name, id ++ "." ++ own, action.key, rule⟩ := by
  rw [List.mem_append, h.actionsOf.isActions.mem_list,
    mem_listFields h.fields_names.1 fun own actions hget => h.isActions_field hget]

/-- The rules of a collection that are listed are those of every place and action. -/
theorem CollectionOf.mem_list (h : CollectionOf registry d c) (name : Key) :
    l ∈ c.list name ↔
      ∃ place action rule, c.ruleAt place action = some rule ∧ l = ⟨name, place.scope, action.key, rule⟩ := by
  have hrecords : l ∈ listRecords name c.records ↔ ∃ id r, c.records.get? id = some r ∧
      l ∈ listActions name id r.actions ++ listFields name id r.fields :=
    mem_flatMap_iff h.records_nodup fun id r => listActions name id r.actions ++ listFields name id r.fields
  rw [CollectionRules.list, List.mem_append, List.mem_append, or_assoc, hrecords, h.actionsOf.isActions.mem_list,
    mem_listFields h.fields_names.1 fun own actions hget => h.isActions_field hget]
  constructor
  · rintro (⟨action, rule, hrule, hl⟩ | ⟨own, action, rule, hrule, hl⟩ | ⟨id, r, hr, hl⟩)
    · exact ⟨.whole, action, rule, hrule, hl⟩
    · exact ⟨.field own, action, rule, hrule, hl⟩
    obtain ⟨part, hrecord⟩ := h.recordOf hr
    rcases (hrecord.mem_list name id).mp hl with ⟨action, rule, hrule, hl⟩ | ⟨own, action, rule, hrule, hl⟩
    · exact ⟨.record id, action, rule, by rw [CollectionRules.ruleAt, CollectionRules.actionsAt, hr]; exact hrule, hl⟩
    · exact ⟨.recordField id own, action, rule,
        by rw [CollectionRules.ruleAt, CollectionRules.actionsAt, hr]; exact hrule, hl⟩
  · rintro ⟨place, action, rule, hrule, hl⟩
    cases place with
    | whole => exact Or.inl ⟨action, rule, hrule, hl⟩
    | field own => exact Or.inr (Or.inl ⟨own, action, rule, hrule, hl⟩)
    | record id =>
      obtain ⟨actions, hat, hget⟩ := Option.bind_eq_some_iff.mp hrule
      obtain ⟨r, hr, rfl⟩ := Option.map_eq_some_iff.mp hat
      obtain ⟨part, hrecord⟩ := h.recordOf hr
      exact Or.inr (Or.inr ⟨id, r, hr, (hrecord.mem_list name id).mpr (Or.inl ⟨action, rule, hget, hl⟩)⟩)
    | recordField id own =>
      obtain ⟨actions, hat, hget⟩ := Option.bind_eq_some_iff.mp hrule
      obtain ⟨r, hr, hown⟩ := Option.bind_eq_some_iff.mp hat
      obtain ⟨part, hrecord⟩ := h.recordOf hr
      have hfield : (r.fields.get? own).bind (·.get? action.key) = some rule := by rw [hown]; exact hget
      exact Or.inr (Or.inr ⟨id, r, hr, (hrecord.mem_list name id).mpr (Or.inr ⟨own, action, rule, hfield, hl⟩)⟩)

/-- The list holds the rules for all collections, those of every collection, and nothing else. -/
theorem Rules.mem_list (hdistinct : document.keysDistinct = true)
    (h : Rules.ofDocument registry document = .ok rules) :
    l ∈ rules.list ↔
      (∃ action rule, rules.defaults.get? (Action.key action) = some rule ∧ l = ⟨wildcard, "", action.key, rule⟩) ∨
        ∃ f ∈ rules.collections, l ∈ f.2.list f.1 := by
  have hlist : l ∈ rules.list ↔ l ∈ listActions wildcard "" rules.defaults ∨
      l ∈ rules.collections.flatMap (fun f => CollectionRules.list f.1 f.2) := List.mem_append
  rw [hlist, List.mem_flatMap, (Rules.isActions_defaults hdistinct h).mem_list]

end Lists

/-! ## What is listed of a document -/

section Documents

variable {engine : Engine} {registry : Registry} {document value : Document} {rules : Rules} {action : Action}
  {rule : Rule} {name : Key} {scope : String}

/-- A document sets a value for an action where a rule may stand: among those for all collections, or at a place
in the part for one. -/
inductive Document.Sets (document : Document) (action : Action) (value : Document) : Key → String → Prop
  | all (hset : document.set? [wildcard, action.key] = some value) : Sets document action value wildcard ""
  | inside {name : Key} {part : Document} {place : Place} (hpart : (name, part) ∈ document.members)
      (hname : (name == wildcard) = false) (hproper : place.Proper)
      (hset : part.set? (place.path ++ [action.key]) = some value) : Sets document action value name place.scope

/-- Wherever the document sets a value, that is compiled and listed. -/
theorem Rules.mem_list_of_sets (hdistinct : document.keysDistinct = true)
    (h : Rules.ofDocument registry document = .ok rules) (hsets : document.Sets action value name scope) :
    ∃ rule, compile registry value = .ok rule ∧ ⟨name, scope, action.key, rule⟩ ∈ rules.list := by
  cases hsets with
  | all hset =>
    obtain ⟨found, hrel, hat⟩ := Rules.default_rel hdistinct h action
    rw [hset] at hrel
    cases hrel with
    | some hcompile => exact ⟨_, hcompile, (Rules.mem_list hdistinct h).mpr (Or.inl ⟨action, _, hat, rfl⟩)⟩
  | @inside name part place hpart hname hproper hset =>
    obtain ⟨c, hc, hcollection⟩ := Rules.exists_mem_of_mem_document hdistinct h hpart hname
    have hrel := hcollection.agreesAt hproper action
    rw [hset] at hrel
    rcases cases_of_rel hrel with ⟨hnone, -⟩ | ⟨_, rule, hsome, hat, hcompile⟩
    · cases hnone
    · cases hsome
      exact ⟨rule, hcompile, (Rules.mem_list hdistinct h).mpr
        (Or.inr ⟨(name, c), hc, (hcollection.mem_list name).mpr ⟨place, action, rule, hat, rfl⟩⟩)⟩

/-- Whatever is listed is a value that the document sets, or a rule from the start that it leaves. -/
theorem Rules.sets_of_mem_list (hdistinct : document.keysDistinct = true)
    (h : Rules.ofDocument registry document = .ok rules) {l : Listed} (hl : l ∈ rules.list) :
    (∃ action value, document.Sets action value l.collection l.scope ∧ l.action = Action.key action ∧
        compile registry value = .ok l.rule) ∨
      ∃ action : Action, document.set? [wildcard, action.key] = none ∧
        builtInDefaults.get? action.key = some l.rule ∧ l = ⟨wildcard, "", action.key, l.rule⟩ := by
  rcases (Rules.mem_list hdistinct h).mp hl with ⟨action, rule, hat, rfl⟩ | ⟨f, hf, hl⟩
  · obtain ⟨found, hrel, hfound⟩ := Rules.default_rel hdistinct h action
    rw [hfound] at hat
    rcases cases_of_rel hrel with ⟨hnone, rfl⟩ | ⟨value, _, hset, rfl, hcompile⟩
    · exact Or.inr ⟨action, hnone, hat, rfl⟩
    · cases hat
      exact Or.inl ⟨action, value, .all hset, rfl, hcompile⟩
  · obtain ⟨hname, part, hpart, hcollection⟩ := Rules.mem_document_of_mem hdistinct h hf
    obtain ⟨place, action, rule, hat, rfl⟩ := (hcollection.mem_list f.1).mp hl
    obtain ⟨actions, hactions, -⟩ := Option.bind_eq_some_iff.mp hat
    have hproper := hcollection.proper_of_actionsAt hactions
    have hrel := hcollection.agreesAt hproper action
    rw [hat] at hrel
    obtain ⟨value, hset, hcompile⟩ := exists_of_rel hrel
    exact Or.inl ⟨action, value, .inside hpart hname hproper hset, rfl, hcompile⟩

/-- A document is refused, or accepted. If it is accepted, every value that it sets where a rule may stand is
compiled and listed. Nothing else is listed but the rules from the start for which it sets none. -/
theorem rules_are_listed (hdistinct : document.keysDistinct = true) :
    match engine.load document with
    | .error f => IsRefusal document.innerKinds f
    | .ok loaded =>
      (∀ action value name scope, document.Sets action value name scope →
        ∃ rule, compile engine.registry value = .ok rule ∧ ⟨name, scope, action.key, rule⟩ ∈ loaded.rules.list) ∧
      ∀ l ∈ loaded.rules.list,
        (∃ action value, document.Sets action value l.collection l.scope ∧ l.action = Action.key action ∧
          compile engine.registry value = .ok l.rule) ∨
        ∃ action : Action, document.set? [wildcard, action.key] = none ∧
          builtInDefaults.get? action.key = some l.rule ∧ l = ⟨wildcard, "", action.key, l.rule⟩ := by
  cases hload : engine.load document with
  | error f => exact isRefusal_ofDocument (Result.map_eq_error.mp hload)
  | ok loaded =>
    obtain ⟨rules, h, rfl⟩ := Result.map_eq_ok.mp hload
    exact ⟨fun _ _ _ _ hsets => Rules.mem_list_of_sets hdistinct h hsets,
      fun _ hl => Rules.sets_of_mem_list hdistinct h hl⟩

end Documents

/-- The one book's own rule is listed under its id, the title's under all books. -/
theorem rules_are_listed_layered : layeredRules.keysDistinct = true ∧
    ∃ loaded, startEngine.load layeredRules = .ok loaded ∧
      ⟨"books", "b1", ".update", .allow⟩ ∈ loaded.rules.list ∧
      ⟨"books", "*.title", ".update", .deny⟩ ∈ loaded.rules.list := by
  have hdistinct : layeredRules.keysDistinct = true := by decide
  obtain ⟨loaded, hload⟩ : ∃ loaded, startEngine.load layeredRules = .ok loaded := ⟨_, rfl⟩
  have hlisted := @rules_are_listed startEngine layeredRules hdistinct
  rw [hload] at hlisted
  have hname : ((.text "books" : Key) == wildcard) = false := by decide
  have hbook : layeredRules.Sets .update (.bool true) "books" "b1" :=
    .inside List.mem_cons_self hname (show (Place.record "b1").Proper by decide) rfl
  have htitle : layeredRules.Sets .update (.rule .deny "AlwaysDeny()") "books" "*.title" :=
    .inside List.mem_cons_self hname (show (Place.field "title").Proper by decide) rfl
  obtain ⟨rule, hcompile, hrule⟩ := hlisted.1 _ _ _ _ hbook
  obtain ⟨rule', hcompile', hrule'⟩ := hlisted.1 _ _ _ _ htitle
  cases hcompile
  cases hcompile'
  exact ⟨hdistinct, loaded, hload, hrule, hrule'⟩

/-! ### A rule for no field -/

def closedRecords : Document := .object [("books", .object [("*", .object [(".read", .bool false)])])]

/-- The rule is accepted, but it is not listed, and anybody may read the books. -/
theorem rule_for_every_record_is_lost : closedRecords.set? ["books", "*", ".read"] = some (.bool false) ∧
    ∃ loaded, startEngine.load closedRecords = .ok loaded ∧
      loaded.rules.list.map (fun l => (l.collection, l.scope, l.action)) =
        [(.text "*", "", ".create"), (.text "*", "", ".update"), (.text "*", "", ".delete")] ∧
      ∀ record id, Record.idOf record = .ok id →
        loaded.rules.resolve .read (some "books") record = .ok ⟨.allow, []⟩ := by
  refine ⟨rfl, _, rfl, rfl, fun record id hid => ?_⟩
  rw [Rules.resolve_eq (by decide)]
  show (Record.idOf record).map _ = _
  rw [hid]
  cases id <;> rfl

end Rule

end DocumentStore
