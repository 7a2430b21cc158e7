/-
  DocumentStore.Proofs.Precedence — which of the rules in a document governs.

  A rule for an action is looked for at one place after the other, the most particular first: at the record,
  at its collection, and at all collections; a rule for a field at the field of the record, then at the field
  of every record. What is found is what the document sets first among these places
  (`precedence_of_document`); and where it sets nothing, a field has no rule, and writing takes a user while
  anybody may read (`ruleWhereUnset`). Nothing is found where a collection has rules and the id of the record
  has no text to look for.
-/

import DocumentStore.Proofs.Places

namespace DocumentStore

namespace Rule

/-- Whether rules for a record may stand under an id. -/
def isRecordName (id : String) : Bool := id != wildcard && !isActionKey id

def ruledId (record : Option Record) : Option String :=
  match Record.idOf record with
  | .ok id => id.filter isRecordName
  | .error _ => none

/-- Where a rule is looked for, the most particular place first. -/
def rulePaths (name : String) (id : Option String) : List (List String) :=
  (id.map fun id => [name, id]).toList ++ [[name], [wildcard]]

def fieldPaths (name : String) (id : Option String) (own : String) : List (List String) :=
  (id.map fun id => [name, id, own]).toList ++ [[name, wildcard, own]]

/-- What a document sets first for an action under some paths. -/
def firstSet? (document : Document) (action : Action) (paths : List (List String)) : Option Document :=
  paths.findSome? fun path => document.set? (path ++ [action.key])

def ruleWhereUnset : Action → Rule
  | .read => .allow
  | _ => .roles [.user]

section

variable {registry : Registry} {document d : Document} {rules : Rules} {c : CollectionRules} {name : String}

theorem rel_or {α β : Type} {R : α → β → Prop} {a a' : Option α} {b b' : Option β} (h : Option.Rel R a b)
    (h' : Option.Rel R a' b') : Option.Rel R (a.or a') (b.or b') := by
  cases h with
  | none => exact h'
  | some h => exact .some h

theorem isRecordName_eq_true {id : String} : isRecordName id = true ↔ id ≠ wildcard ∧ isActionKey id = false := by
  rw [isRecordName, Bool.and_eq_true, bne_iff_ne, Bool.not_eq_true']

/-- What a document sets under a path is what the part of the collection sets. -/
theorem set?_cons (document : Document) (name : String) (path : List String) :
    document.set? (name :: path) = (document.under? [name]).bind (·.set? path) :=
  Document.set?_append document [name] path

theorem findSome?_toList_append {α β γ : Type} (a : Option α) (one : α → β) (rest : List β) (f : β → Option γ) :
    ((a.map one).toList ++ rest).findSome? f = (a.bind fun a => f (one a)).or (rest.findSome? f) := by
  rw [List.findSome?_append]
  cases a with
  | none => rfl
  | some a =>
    rw [Option.map_some, Option.toList_some, List.findSome?_singleton]
    rfl

theorem firstSet?_rulePaths (document : Document) (action : Action) (name : String) (id : Option String) :
    firstSet? document action (rulePaths name id) =
      (id.bind fun id => document.set? [name, id, action.key]).or
        ((document.set? [name, action.key]).or (document.set? [wildcard, action.key])) := by
  rw [firstSet?, rulePaths, findSome?_toList_append, List.findSome?_cons, List.findSome?_singleton]
  congr 1
  show _ = (document.set? ([name] ++ [action.key])).or _
  cases document.set? ([name] ++ [action.key]) <;> rfl

theorem firstSet?_fieldPaths (document : Document) (action : Action) (name own : String) (id : Option String) :
    firstSet? document action (fieldPaths name id own) =
      (id.bind fun id => document.set? [name, id, own, action.key]).or
        (document.set? [name, wildcard, own, action.key]) := by
  rw [firstSet?, fieldPaths, findSome?_toList_append, List.findSome?_singleton]
  rfl

/-! ## One collection -/

namespace CollectionOf

variable (h : CollectionOf registry d c) (action : Action) (otherwise : Rule)
include h

/-- Rules for a record are there only under an id that may have some. -/
theorem bind_filter (id : Option String) : id.bind c.records.get? = (id.filter isRecordName).bind c.records.get? := by
  cases id with
  | none => rfl
  | some id =>
    cases hr : c.records.get? id with
    | none => cases hproper : isRecordName id <;> simp [Option.filter, hproper, hr]
    | some r => simp [Option.filter, isRecordName_eq_true.mpr (h.records_proper hr)]

/-- The rule that governs is that of the record, else that of the collection. -/
theorem resolve_rule (id : Option String) :
    (c.resolve action otherwise id).rule =
      (((id.filter isRecordName).bind fun id => c.ruleAt (.record id) action).or (c.ruleAt .whole action)).getD
        otherwise := by
  unfold CollectionRules.resolve
  rw [h.bind_filter]
  cases id.filter isRecordName with
  | none => rfl
  | some id =>
    simp only [Option.bind_some, CollectionRules.ruleAt, CollectionRules.actionsAt]
    cases c.records.get? id with
    | none => rfl
    | some r =>
      simp only [Option.map_some, Option.bind_some]
      cases r.actions.get? action.key <;> rfl

/-- The rule of a field is that of the record's field, else that of the field in every record, and no field is
there twice. -/
theorem resolve_field (id : Option String) :
    (c.resolve action otherwise id).fields.names.Nodup ∧
      ∀ own, (c.resolve action otherwise id).fields.get? own =
        ((id.filter isRecordName).bind fun id => c.ruleAt (.recordField id own) action).or
          (c.ruleAt (.field own) action) := by
  obtain ⟨hnodup, -⟩ := h.fields_names
  have hfields := names_nodup_fieldRulesFor hnodup action
  unfold CollectionRules.resolve
  rw [h.bind_filter]
  cases id.filter isRecordName with
  | none => exact ⟨hfields, get?_fieldRulesFor hnodup action⟩
  | some id =>
    simp only [Option.bind_some, CollectionRules.ruleAt, CollectionRules.actionsAt]
    cases hr : c.records.get? id with
    | none => exact ⟨hfields, get?_fieldRulesFor hnodup action⟩
    | some r =>
      obtain ⟨part, hrecord⟩ := h.recordOf hr
      obtain ⟨hnodup', -⟩ := hrecord.fields_names
      refine ⟨Keyed.nodup_names_overlay hfields _, fun own => ?_⟩
      rw [Keyed.get?_overlay (names_nodup_fieldRulesFor hnodup' action), get?_fieldRulesFor hnodup,
        get?_fieldRulesFor hnodup']
      rfl

/-- No rule is there for a field by the name of an action. -/
theorem ruleAt_eq_none {place : Place} (hproper : ¬ place.Proper) : c.ruleAt place action = none := by
  cases hat : c.actionsAt place with
  | none => rw [CollectionRules.ruleAt, hat, Option.bind_none]
  | some actions => exact absurd (h.proper_of_actionsAt hat) hproper

theorem field_eq_none {own : String} (hown : isActionKey own = true) (id : Option String) :
    (c.resolve action otherwise id).fields.get? own = none := by
  have hnot : ¬ isActionKey own = false := by simp [hown]
  rw [(h.resolve_field action otherwise id).2, h.ruleAt_eq_none action (show ¬ (Place.field own).Proper from hnot),
    Option.or_none, Option.bind_eq_none_iff]
  exact fun id _ => h.ruleAt_eq_none action fun hproper => hnot hproper.2.2

/-- What governs in a collection is what its part sets first, or the rule for all. -/
theorem rule_rel {id : Option String} (hid : ∀ i, id = some i → isRecordName i = true) :
    Option.Rel (fun value rule => compile registry value = .ok rule)
      ((id.bind fun id => d.set? [id, action.key]).or (d.set? [action.key]))
      ((id.bind fun id => c.ruleAt (.record id) action).or (c.ruleAt .whole action)) := by
  refine rel_or ?_ (h.agreesAt (show Place.whole.Proper from trivial) action)
  cases id with
  | none => exact .none
  | some id => exact h.agreesAt (show (Place.record id).Proper from isRecordName_eq_true.mp (hid id rfl)) action

theorem field_rule_rel {own : String} (hown : isActionKey own = false) {id : Option String}
    (hid : ∀ i, id = some i → isRecordName i = true) :
    Option.Rel (fun value rule => compile registry value = .ok rule)
      ((id.bind fun id => d.set? [id, own, action.key]).or (d.set? [wildcard, own, action.key]))
      ((id.bind fun id => c.ruleAt (.recordField id own) action).or (c.ruleAt (.field own) action)) := by
  refine rel_or ?_ (h.agreesAt (show (Place.field own).Proper from hown) action)
  cases id with
  | none => exact .none
  | some id =>
    obtain ⟨hwild, haction⟩ := isRecordName_eq_true.mp (hid id rfl)
    exact h.agreesAt (show (Place.recordField id own).Proper from ⟨hwild, haction, hown⟩) action

end CollectionOf

/-! ## Every collection -/

theorem isRecordName_of_ruledId (record : Option Record) :
    ∀ id, ruledId record = some id → isRecordName id = true := by
  intro id h
  unfold ruledId at h
  split at h
  · exact (Option.filter_eq_some_iff.mp h).2
  · cases h

/-- Where the document says nothing of all collections, the rule from the start is left. -/
theorem Rules.default_eq (hdistinct : document.keysDistinct = true)
    (h : Rules.ofDocument registry document = .ok rules) (action : Action) :
    ∃ found, Option.Rel (fun value rule => compile registry value = .ok rule)
        (document.set? [wildcard, action.key]) found ∧
      rules.default action = found.getD (ruleWhereUnset action) := by
  obtain ⟨found, hrel, hfound⟩ := Rules.default_rel hdistinct h action
  have hstart : (builtInDefaults.get? action.key).getD .allow = ruleWhereUnset action := by cases action <;> rfl
  refine ⟨found, hrel, ?_⟩
  rw [Rules.default, hfound, ← hstart]
  cases found <;> rfl

theorem Rules.resolve_eq (hempty : name ≠ "") (action : Action) (record : Option Record) :
    rules.resolve action (some name) record =
      match rules.collections.get? (.text name) with
      | none => .ok ⟨rules.default action, []⟩
      | some c => (Record.idOf record).map (c.resolve action (rules.default action)) := by
  have hname : rules.collectionRules (some name) = rules.collections.get? (.text name) :=
    if_neg (mt String.isEmpty_iff.mp hempty)
  cases hc : rules.collections.get? (.text name) <;> simp only [Rules.resolve, hname, hc]

theorem ruledId_of_idOf {record : Option Record} {id : Option String} (h : Record.idOf record = .ok id) :
    ruledId record = id.filter isRecordName := by
  rw [ruledId, h]

/-- No collection is found under the name of all of them. -/
theorem Rules.get?_wildcard (hdistinct : document.keysDistinct = true)
    (h : Rules.ofDocument registry document = .ok rules) : rules.collections.get? (.text wildcard) = none :=
  Keyed.get?_eq_none_of_forall fun _ hf => (Rules.mem_document_of_mem hdistinct h hf).1

/-- The rules of an engine are those of its document, if that says anything. -/
theorem rules_ofDocument {lookup : Option Lookup} {engine : Engine} {path : List String}
    (hdoc : Engine.ofDocument registry lookup document = .ok engine)
    (hd : document.under? (name :: path) = some d) : Rules.ofDocument registry document = .ok engine.rules := by
  have htruthy : document.draft.truthy = true := by
    rw [Document.under?] at hd
    cases document with
    | object members =>
      cases members with
      | nil => cases hd
      | cons m rest => rfl
    | _ => cases hd
  obtain ⟨rules, hrules, rfl⟩ := Result.map_eq_ok.mp hdoc
  rwa [if_pos htruthy] at hrules

section

variable {action : Action} {record : Option Record} {resolved : Resolved}
  (hdistinct : document.keysDistinct = true) (h : Rules.ofDocument registry document = .ok rules)
  (hempty : name ≠ "") (hwild : name ≠ wildcard)
include hdistinct h hempty hwild

/-- What governs is asked for in vain only where the collection has rules and the id cannot be written. -/
theorem Rules.resolve_eq_error_iff {f : Failure} :
    rules.resolve action (some name) record = .error f ↔
      (document.under? [name]).isSome = true ∧ Record.idOf record = .error f := by
  rw [Rules.resolve_eq hempty]
  rcases cases_of_rel (Rules.collection_rel hdistinct h hwild) with ⟨hnone, hget⟩ | ⟨d, c, hsome, hget, -⟩
  · simp [hnone, hget]
  · simp [hsome, hget, Result.map_eq_error]

theorem Rules.resolve_rule_rel (hr : rules.resolve action (some name) record = .ok resolved) :
    ∃ found, Option.Rel (fun value rule => compile registry value = .ok rule)
        (firstSet? document action (rulePaths name (ruledId record))) found ∧
      resolved.rule = found.getD (ruleWhereUnset action) := by
  obtain ⟨found, hall, hdefault⟩ := Rules.default_eq hdistinct h action
  rw [firstSet?_rulePaths]
  simp only [set?_cons document name]
  rw [Rules.resolve_eq hempty] at hr
  rcases cases_of_rel (Rules.collection_rel hdistinct h hwild) with ⟨hnone, hget⟩ | ⟨d, c, hsome, hget, hc⟩
  · rw [hget] at hr
    cases hr
    refine ⟨found, ?_, hdefault⟩
    simpa [hnone] using hall
  · rw [hget] at hr
    obtain ⟨id, hid, rfl⟩ := Result.map_eq_ok.mp hr
    have hrel := rel_or (hc.rule_rel action (isRecordName_of_ruledId record)) hall
    rw [Option.or_assoc] at hrel
    simp only [hsome, Option.bind_some]
    refine ⟨_, hrel, ?_⟩
    rw [hc.resolve_rule, hdefault, ruledId_of_idOf hid, Option.getD_or, Option.getD_or, Option.getD_or]

theorem Rules.resolve_field_rel (hr : rules.resolve action (some name) record = .ok resolved) :
    resolved.fields.names.Nodup ∧ (∀ own, isActionKey own = true → resolved.fields.get? own = none) ∧
      ∀ own, isActionKey own = false → Option.Rel (fun value rule => compile registry value = .ok rule)
        (firstSet? document action (fieldPaths name (ruledId record) own)) (resolved.fields.get? own) := by
  simp only [firstSet?_fieldPaths, set?_cons document name]
  rw [Rules.resolve_eq hempty] at hr
  rcases cases_of_rel (Rules.collection_rel hdistinct h hwild) with ⟨hnone, hget⟩ | ⟨d, c, hsome, hget, hc⟩
  · rw [hget] at hr
    cases hr
    refine ⟨List.nodup_nil, fun _ _ => rfl, fun own _ => ?_⟩
    rw [hnone]
    cases ruledId record <;> exact .none
  · rw [hget] at hr
    obtain ⟨id, hid, rfl⟩ := Result.map_eq_ok.mp hr
    obtain ⟨hnodup, hfields⟩ := hc.resolve_field action (rules.default action) id
    refine ⟨hnodup, fun own hown => hc.field_eq_none action _ hown id, fun own hown => ?_⟩
    have hrel := hc.field_rule_rel action hown (isRecordName_of_ruledId record)
    rw [ruledId_of_idOf hid] at hrel ⊢
    simp only [hsome, Option.bind_some]
    rw [hfields]
    exact hrel

end

/-- Of an accepted document the rule that governs an action on a record is compiled from what it sets first at
the record, at the collection or at all collections; where it sets nothing, writing takes a user and anybody
may read. Rules for fields are compiled from what it sets first at the field of the record or at the field of
every record; there are no others. Nothing governs only where the document has a part for the collection and the
id of the record cannot be written. -/
theorem precedence_of_document {engine loaded : Engine} (hdistinct : document.keysDistinct = true)
    (hload : engine.load document = .ok loaded) (hempty : name ≠ "") (hwild : name ≠ wildcard) (action : Action)
    (record : Option Record) :
    (∀ f, loaded.rules.resolve action (some name) record = .error f ↔
      (document.under? [name]).isSome = true ∧ Record.idOf record = .error f) ∧
    ∀ resolved, loaded.rules.resolve action (some name) record = .ok resolved →
      (match firstSet? document action (rulePaths name (ruledId record)) with
        | some value => compile engine.registry value = .ok resolved.rule
        | none => resolved.rule = ruleWhereUnset action) ∧
      resolved.fields.names.Nodup ∧
      (∀ own, isActionKey own = true → resolved.fields.get? own = none) ∧
      ∀ own, isActionKey own = false →
        match firstSet? document action (fieldPaths name (ruledId record) own) with
        | some value => ∃ rule, compile engine.registry value = .ok rule ∧ resolved.fields.get? own = some rule
        | none => resolved.fields.get? own = none := by
  obtain ⟨rules, h, rfl⟩ := Result.map_eq_ok.mp hload
  refine ⟨fun f => Rules.resolve_eq_error_iff hdistinct h hempty hwild, fun resolved hr => ?_⟩
  obtain ⟨found, hrel, hrule⟩ := Rules.resolve_rule_rel hdistinct h hempty hwild hr
  obtain ⟨hnodup, hnone, hfields⟩ := Rules.resolve_field_rel hdistinct h hempty hwild hr
  refine ⟨?_, hnodup, hnone, fun own hown => ?_⟩
  · rw [hrule]
    rcases cases_of_rel hrel with ⟨hunset, rfl⟩ | ⟨value, rule, hset, rfl, hcompile⟩
    · rw [hunset]
      rfl
    · rw [hset]
      exact hcompile
  · rcases cases_of_rel (hfields own hown) with ⟨hunset, hfield⟩ | ⟨value, rule, hset, hfield, hcompile⟩
    · rw [hunset]
      exact hfield
    · rw [hset]
      exact ⟨rule, hcompile, hfield⟩

end

/-! ### One book apart -/

/-- Books are changed by their owners, and their titles by nobody, which is a rule made in code; one book may be
changed by all, and says nothing of its title. -/
def layeredRules : Document :=
  .object [("books", .object [(".update", .list [.text "Owner"]),
    ("*", .object [("title", .object [(".update", .rule .deny "AlwaysDeny()")])]),
    ("b1", .object [(".update", .bool true), ("title", .object [(".update", .text "")])])])]

def startEngine : Engine := ⟨.builtIn, none, .builtIn⟩

/-- The one book has its own rule, but the title's rule is that of all books. -/
theorem precedence_of_document_layered : layeredRules.keysDistinct = true ∧ "books" ≠ "" ∧ "books" ≠ wildcard ∧
    ∃ loaded resolved, startEngine.load layeredRules = .ok loaded ∧
      loaded.rules.resolve .update (some "books") (some [("_id", .text "b1")]) = .ok resolved ∧
      resolved.rule = .allow ∧ resolved.fields.get? "title" = some .deny := by
  have hdistinct : layeredRules.keysDistinct = true := by decide
  have hempty : "books" ≠ "" := by decide
  have hwild : "books" ≠ wildcard := by decide
  obtain ⟨loaded, hload⟩ : ∃ loaded, startEngine.load layeredRules = .ok loaded := ⟨_, rfl⟩
  obtain ⟨hfails, hgoverns⟩ :=
    precedence_of_document hdistinct hload hempty hwild .update (some [("_id", .text "b1")])
  cases hr : loaded.rules.resolve .update (some "books") (some [("_id", .text "b1")]) with
  | error f => cases ((hfails f).mp hr).2
  | ok resolved =>
    obtain ⟨hrule, -, -, hfields⟩ := hgoverns resolved hr
    obtain ⟨rule, hcompile, htitle⟩ := hfields "title" (by decide)
    refine ⟨hdistinct, hempty, hwild, loaded, resolved, hload, hr, (Except.ok.inj hrule).symm, ?_⟩
    rw [htitle, ← Except.ok.inj hcompile]

end Rule

end DocumentStore
