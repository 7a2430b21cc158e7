/-
  DocumentStore.Rule.Document — rules documents and the rules compiled from them.

  A document gives, for each collection, rules by action, rules for single fields under
  `*`, and under a record's id rules and field rules for that one record. The entry `*` of
  the document itself gives rules for all collections. Keys that start with a point are
  actions, everything else is not. A value that is null, an empty text or an empty list
  sets no rule.

  A document is what a caller hands in, so it may hold anything: rules made in code, which
  are taken as they are, and values that are no rules, which are refused. A collection may
  be named by any key; below that every name is looked at as a text, and the first that is
  none ends the reading.
-/

import DocumentStore.Rule.Expression

namespace DocumentStore.Rule

open DocumentStore.Decimal

/-- Rules under the keys of their actions. -/
abbrev ActionRules := Named Rule

/-- The action rules of single fields. -/
abbrev FieldRules := Named ActionRules

structure RecordRules where
  actions : ActionRules
  fields : FieldRules

structure CollectionRules where
  actions : ActionRules
  fields : FieldRules
  records : Named RecordRules

structure Rules where
  defaults : ActionRules
  collections : Keyed Key CollectionRules

def wildcard : String := "*"

def isActionKey (key : String) : Bool :=
  match key.toList with
  | '.' :: _ => true
  | _ => false

/-! ## Values -/

inductive Document where
  | null
  | bool (b : Bool)
  | int (n : Int)
  | float (x : Binary64)
  | text (s : String)
  | list (items : List Draft)
  | tuple (items : List Draft)
  | object (members : List (Key × Document))
  | foreign (kind spelled : String)
  /-- A rule made in code, with the text that is known of it. -/
  | rule (rule : Rule) (spelled : String)

namespace Document

mutual

def ofDraft : Draft → Document
  | .null => .null
  | .bool b => .bool b
  | .int n => .int n
  | .float x => .float x
  | .text s => .text s
  | .list items => .list items
  | .tuple items => .tuple items
  | .object members => .object (ofMembers members)
  | .foreign kind spelled => .foreign kind spelled

def ofMembers : List (Key × Draft) → List (Key × Document)
  | [] => []
  | (key, d) :: ms => (key, ofDraft d) :: ofMembers ms

end

def ofValue (v : Value) : Document := ofDraft (.ofValue v)

mutual

/-- The document as what it is to those who know of no rules. -/
def draft : Document → Draft
  | .null => .null
  | .bool b => .bool b
  | .int n => .int n
  | .float x => .float x
  | .text s => .text s
  | .list items => .list items
  | .tuple items => .tuple items
  | .object members => .object (draftMembers members)
  | .foreign kind spelled => .foreign kind spelled
  | .rule _ spelled => .foreign "Rule" spelled

def draftMembers : List (Key × Document) → List (Key × Draft)
  | [] => []
  | (key, d) :: ms => (key, draft d) :: draftMembers ms

end

end Document

/-- The members of an object up to the first whose name is no text, and the kind of that name. -/
structure Part where
  members : Named Document
  stop : Option String

namespace Part

def ofMembers : List (Key × Document) → Part
  | [] => ⟨[], none⟩
  | (.text name, d) :: rest =>
    let part := ofMembers rest
    { part with members := (name, d) :: part.members }
  | (key, _) :: _ => ⟨[], some key.kind⟩

/-- What comes of going through all members, `walk` being what came of those before the stop. -/
def through {α : Type} (part : Part) (walk : Except Failure α) : Except Failure α :=
  match walk, part.stop with
  | .ok _, some kind => .error (.nameKind kind)
  | walk, _ => walk

end Part

def Document.part? : Document → Option Part
  | .object members => some (.ofMembers members)
  | _ => none

/-! ## Single rules -/

def isUnset : Document → Bool
  | .null => true
  | .text s => s.isEmpty
  | .list items => items.isEmpty
  | .tuple items => items.isEmpty
  | _ => false

def roleOf? : Draft → Option Role
  | .text s => Role.ofName? s
  | _ => none

def rolesOf? : List Draft → Option (List Role)
  | [] => some []
  | v :: vs =>
    match roleOf? v, rolesOf? vs with
    | some r, some rs => some (r :: rs)
    | _, _ => none

/-- The failure of a draft that is not understood, with its text if it has one. -/
def refuse {α : Type} (why : String → RuleFault) (d : Draft) : Except Failure α :=
  d.showing.bind fun shown => .error (.rules (why shown))

def compileRoles (items : List Draft) : Except Failure Rule :=
  match rolesOf? items with
  | some found => .ok (.roles found)
  | none => refuse .role (.list items)

def compile (registry : Registry) : Document → Except Failure Rule
  | .rule rule _ => .ok rule
  | .bool b => .ok (if b then .allow else .deny)
  | .list items => compileRoles items
  | .tuple items => compileRoles items
  | .text s => compileExpression registry s
  | d => refuse .value d.draft

/-! ## Documents -/

/-- The failure at a place that may have no text. -/
def refuseAt {α : Type} (place : Key) (why : String → RuleFault) : Except Failure α :=
  place.spelled.bind fun path => .error (.rules (why path))

/-- The rules under action keys, put one after the other into `acc`. -/
def compileActionsInto (registry : Registry) (place : Key) (acc : ActionRules) :
    Named Document → Except Failure ActionRules
  | [] => .ok acc
  | (key, value) :: rest =>
    if isActionKey key then
      match Action.ofKey? key with
      | none => refuseAt place (.action key)
      | some _ =>
        if isUnset value then compileActionsInto registry place acc rest
        else
          match compile registry value with
          | .error f => .error f
          | .ok rule => compileActionsInto registry place (acc.put key rule) rest
    else compileActionsInto registry place acc rest

def compileActions (registry : Registry) (place : Key) (part : Part) :
    Except Failure ActionRules :=
  part.through (compileActionsInto registry place [] part.members)

def compileEachField (registry : Registry) (path : String) :
    Named Document → Except Failure FieldRules
  | [] => .ok []
  | (field, value) :: rest =>
    if isActionKey field then compileEachField registry path rest
    else
      match value.part? with
      | some part =>
        match compileActions registry (path ++ "." ++ field) part with
        | .error f => .error f
        | .ok actions => (compileEachField registry path rest).map ((field, actions) :: ·)
      | none => .error (.rules (.field field path))

def compileFields (registry : Registry) (path : String) (part : Part) :
    Except Failure FieldRules :=
  part.through (compileEachField registry path part.members)

/-- The field rules and record rules of a collection, added to those found so far. -/
def compileSections (registry : Registry) (name : Key) (acc : CollectionRules) :
    Named Document → Except Failure CollectionRules
  | [] => .ok acc
  | (key, value) :: rest =>
    if isActionKey key then compileSections registry name acc rest
    else
      match name.spelled with
      | .error f => .error f
      | .ok text =>
        let path := text ++ "." ++ key
        match value.part? with
        | some part =>
          if key = wildcard then
            match compileFields registry path part with
            | .error f => .error f
            | .ok fields => compileSections registry name { acc with fields } rest
          else
            match compileActions registry path part with
            | .error f => .error f
            | .ok actions =>
              match compileFields registry path part with
              | .error f => .error f
              | .ok fields =>
                compileSections registry name
                  { acc with records := acc.records.put key ⟨actions, fields⟩ } rest
        | none => .error (.rules (.part path))

def compileCollection (registry : Registry) (name : Key) (part : Part) :
    Except Failure CollectionRules :=
  match compileActions registry name part with
  | .error f => .error f
  | .ok actions => compileSections registry name ⟨actions, [], []⟩ part.members

/-- What holds where a document says nothing: writing takes a user. -/
def builtInDefaults : ActionRules :=
  [(Action.create.key, .roles [.user]), (Action.update.key, .roles [.user]),
    (Action.delete.key, .roles [.user])]

def compileInto (registry : Registry) (acc : Rules) :
    List (Key × Document) → Except Failure Rules
  | [] => .ok acc
  | (name, value) :: rest =>
    match value.part? with
    | some part =>
      if name == wildcard then
        match compileActions registry name part with
        | .error f => .error f
        | .ok actions =>
          compileInto registry { acc with defaults := acc.defaults.overlay actions } rest
      else
        match compileCollection registry name part with
        | .error f => .error f
        | .ok c =>
          compileInto registry { acc with collections := acc.collections.put name c } rest
    | none => name.showing.bind fun shown => .error (.rules (.collection shown))

def Rules.builtIn : Rules := ⟨builtInDefaults, []⟩

/-- The rules that a document sets. -/
def Rules.ofDocument (registry : Registry) : Document → Except Failure Rules
  | .object members => compileInto registry Rules.builtIn members
  | _ => .error (.rules .document)

/-! ## Listing -/

/-- A rule with the collection, scope and action it stands under. -/
structure Listed where
  collection : Key
  scope : String
  action : String
  rule : Rule

def listActions (collection : Key) (scope : String) (actions : ActionRules) : List Listed :=
  actions.map fun (action, rule) => ⟨collection, scope, action, rule⟩

def listFields (collection : Key) (scope : String) (fields : FieldRules) : List Listed :=
  fields.flatMap fun (field, actions) => listActions collection (scope ++ "." ++ field) actions

def listRecords (collection : Key) (records : Named RecordRules) : List Listed :=
  records.flatMap fun (id, r) =>
    listActions collection id r.actions ++ listFields collection id r.fields

def CollectionRules.list (name : Key) (c : CollectionRules) : List Listed :=
  listActions name "" c.actions ++ listFields name wildcard c.fields ++ listRecords name c.records

/-- Every rule there is, the defaults first. -/
def Rules.list (rules : Rules) : List Listed :=
  listActions wildcard "" rules.defaults ++
    rules.collections.flatMap fun (name, c) => c.list name

end DocumentStore.Rule
