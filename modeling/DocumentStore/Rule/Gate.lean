/-
  DocumentStore.Rule.Gate — which rules govern a call, and letting it pass.

  The rule for an action is the record's own, else its collection's, else the default, else
  leave. Field rules come from the collection's `*`, a record's own replacing them by name.

  A call passes if its rule allows it or the caller has the admin override. The fields
  whose rule denies are hidden, override or not: from what is read, or from the payload of
  a write.
-/

import DocumentStore.Rule.Document

namespace DocumentStore.Rule

structure Resolved where
  rule : Rule
  fields : Named Rule

/-- The rule of each field that has one for the action. -/
def fieldRulesFor (action : Action) (fields : FieldRules) : Named Rule :=
  fields.filterMap fun (field, actions) => (actions.get? action.key).map fun rule => (field, rule)

def Rules.collectionRules (rules : Rules) (collection : Option String) : Option CollectionRules :=
  match collection with
  | none => none
  | some name => if name.isEmpty then none else rules.collections.get? (.text name)

def Rules.default (rules : Rules) (action : Action) : Rule :=
  (rules.defaults.get? action.key).getD .allow

/-- The rules of a collection for an action on the record with this id. -/
def CollectionRules.resolve (c : CollectionRules) (action : Action) (otherwise : Rule)
    (id : Option String) : Resolved :=
  let rule := (c.actions.get? action.key).getD otherwise
  let fields := fieldRulesFor action c.fields
  match id.bind c.records.get? with
  | none => ⟨rule, fields⟩
  | some r =>
    ⟨(r.actions.get? action.key).getD rule, fields.overlay (fieldRulesFor action r.fields)⟩

/-- The rules for an action on a record, whose id is asked for where its collection has rules. -/
def Rules.resolve (rules : Rules) (action : Action) (collection : Option String)
    (record : Option Record) : Except Failure Resolved :=
  match rules.collectionRules collection with
  | none => .ok ⟨rules.default action, []⟩
  | some c => (Record.idOf record).map (c.resolve action (rules.default action))

/-- The names of the fields whose rule denies. -/
def deniedFields (ctx : Context) : Named Rule → Except Failure (List String)
  | [] => .ok []
  | (field, rule) :: rest =>
    match rule.decide false ctx with
    | .error f => .error f
    | .ok true => deniedFields ctx rest
    | .ok false => (deniedFields ctx rest).map (field :: ·)

structure Engine where
  registry : Registry
  lookup : Option Lookup
  rules : Rules

namespace Engine

/-- An engine for a document; an empty or absent one sets no rules. -/
def ofDocument (registry : Registry) (lookup : Option Lookup) (document : Document) :
    Except Failure Engine :=
  (Rules.ofDocument registry (if document.draft.truthy then document else .object [])).map
    fun rules => ⟨registry, lookup, rules⟩

/-- The engine with the rules of another document in place of its own. -/
def load (engine : Engine) (document : Document) : Except Failure Engine :=
  (Rules.ofDocument engine.registry document).map fun rules => { engine with rules }

def register (engine : Engine) (name : String) (p : Predicate) : Except Failure Engine :=
  (engine.registry.register name p).map fun registry => { engine with registry }

def contextFor (engine : Engine) (caller : Caller) (data : Option Record)
    (newData : Option Draft.Members) : Context :=
  ⟨caller.user, data.getD [], newData.getD [], caller.isAdmin, engine.lookup⟩

/-- The failure of a call that its rule denies. The caller's id goes into the log. -/
def denial {α : Type} (caller : Caller) : Except Failure α :=
  caller.userId.bind fun _ => .error (.credential .denied)

/-- Lets a call pass, and gives the fields that are hidden from it. -/
def gate (engine : Engine) (caller : Caller) (action : Action) (collection : Option String)
    (data : Option Record) (newData : Option Draft.Members) : Except Failure (List String) :=
  match engine.rules.resolve action collection data with
  | .error f => .error f
  | .ok resolved =>
    let ctx := engine.contextFor caller data newData
    match resolved.rule.decide true ctx with
    | .error f => .error f
    | .ok allowed =>
      if allowed || caller.isAdmin then deniedFields ctx resolved.fields else denial caller

/-! ## Writes -/

def eraseAll (fields : List String) (payload : Draft.Members) : Draft.Members :=
  fields.foldl (fun members field => members.erase (.text field)) payload

/-- The payload of a write without the fields it may not set. -/
def passWrite (engine : Engine) (caller : Caller) (action : Action) (collection : String)
    (data : Option Record) (payload : Draft.Members) : Except Failure Draft.Members :=
  (engine.gate caller action (some collection) data (some payload)).map fun hidden =>
    eraseAll hidden payload

/-! ## Reads -/

/-- The record without the fields hidden from the caller. -/
def redact (hidden : List String) (record : Record) : Record :=
  hidden.foldl Keyed.erase record

/-- The fields hidden in each record, in the order of the records. -/
def hiddenEach (engine : Engine) (caller : Caller) (collection : Option String) :
    List Record → Except Failure (List (List String))
  | [] => .ok []
  | record :: rest =>
    match engine.gate caller .read collection (some record) none with
    | .error f => .error f
    | .ok hidden => (hiddenEach engine caller collection rest).map (hidden :: ·)

/-- The records of a list that holds nothing else. -/
def onlyRecords : List Value → Option (List Record)
  | [] => some []
  | .object r :: vs => (onlyRecords vs).map (r :: ·)
  | _ :: _ => none

/-- The records that a read gives out, if it gives out a record or a list of records. -/
def recordsOf : Value → Option (List Record)
  | .object r => some [r]
  | .list vs => onlyRecords vs
  | _ => none

/-- Lets a read pass: once for every record, or once for anything else. -/
def passRead (engine : Engine) (caller : Caller) (collection : Option String) (value : Value) :
    Except Failure (List (List String)) :=
  match recordsOf value with
  | some records => engine.hiddenEach caller collection records
  | none => (engine.gate caller .read collection none none).map fun _ => []

def redactValue (hidden : List String) : Value → Value
  | .object r => .object (redact hidden r)
  | v => v

def redactItems : List (List String) → List Value → List Value
  | hidden :: hiddens, v :: vs => redactValue hidden v :: redactItems hiddens vs
  | _, vs => vs

/-- An answer without the fields hidden in each of its records. -/
def redactAll (hidden : List (List String)) : Value → Value
  | .object r => .object (redact (hidden.headD []) r)
  | .list vs => .list (redactItems hidden vs)
  | v => v

def readResult (engine : Engine) (caller : Caller) (collection : Option String) (value : Value) :
    Except Failure Value :=
  (engine.passRead caller collection value).map fun hidden => redactAll hidden value

/-- Lets any operation pass, and gives what it reads and what it writes without the hidden
fields: a write loses them in its payload, a read in what it reads, a deletion nowhere. -/
def authorize (engine : Engine) (caller : Caller) (action : Action) (collection : Option String)
    (data : Option Record) (newData : Option Draft.Members) :
    Except Failure (Option Record × Option Draft.Members) :=
  (engine.gate caller action collection data newData).map fun hidden =>
    match action with
    | .create => (data, newData.map (eraseAll hidden))
    | .update => (data, newData.map (eraseAll hidden))
    | .read => (data.map (redact hidden), newData)
    | .delete => (data, newData)

end Engine

end DocumentStore.Rule
