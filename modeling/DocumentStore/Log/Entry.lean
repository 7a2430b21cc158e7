/-
  DocumentStore.Log.Entry — one thing that was logged, and its two written forms.

  In a file an entry is an object on a line of its own; on the console it is a line that
  starts with the time and the component. What is empty is left out: a context, a trouble,
  on the console the level of what merely informs. From warnings on a file entry tells
  where it comes from.
-/

import DocumentStore.Json.Write
import DocumentStore.Log.Level
import DocumentStore.Log.Template
import DocumentStore.Time
import DocumentStore.Value.Shown

namespace DocumentStore.Log

structure Origin where
  file : String
  line : Int
  function : String
  deriving DecidableEq, Repr

/-- Something that went wrong, by the name of its kind. -/
structure Trouble where
  kind : String
  message : String
  deriving DecidableEq, Repr

structure Entry where
  /-- In microseconds. -/
  time : Int
  level : Level
  component : Option String
  message : String
  context : Value
  origin : Origin
  trouble : Option Trouble

def defaultComponent : String := "docstore"

/-! ## Troubles -/

namespace Trouble

/-- The kinds of trouble that are this program's own. -/
def refusalClass? (kind : String) : Option RefusalClass :=
  if kind = "ServiceError" then some .service
  else if kind = "RequestError" then some .request
  else if kind = "AuthorizationError" then some .authorization
  else if kind = "CredentialError" then some .credential
  else if kind = "NotFoundError" then some .notFound
  else if kind = "ConflictError" then some .conflict
  else none

/-- What a trouble says: one of a refusal that is empty says what its class says, a missing
key is shown in quotes. -/
def text (t : Trouble) : String :=
  match refusalClass? t.kind with
  | some k => k.messageOr (some t.message)
  | none => if t.kind = "KeyError" then Text.quoted t.message else t.message

/-- The full name of the kind. -/
def fullKind (t : Trouble) : String :=
  if (refusalClass? t.kind).isSome || t.kind == "RuleConfigError" then
    "docstore.errors." ++ t.kind
  else t.kind

def line (t : Trouble) : String :=
  if t.text.isEmpty then t.fullKind else t.fullKind ++ ": " ++ t.text

def toValue (t : Trouble) : Value :=
  .object [("type", .text t.kind), ("message", .text t.text)]

end Trouble

/-! ## Entries -/

namespace Entry

def origined (e : Entry) : Bool := decide (Level.warning ≤ e.level)

def componentName (e : Entry) : String := e.component.getD defaultComponent

def originValue (o : Origin) : Value :=
  .object [("file", .text o.file), ("line", .int o.line), ("function", .text o.function)]

/-- The entry as an object, with its time in words. -/
def toValue (e : Entry) (time : String) : Value :=
  .object <|
    [("timestamp", .text time), ("level", .text e.level.name),
      ("component", .text e.componentName), ("message", .text e.message)] ++
    (if e.context.truthy then [("context", e.context)] else []) ++
    (if e.origined then [("source", originValue e.origin)] else []) ++
    match e.trouble with
    | some t => [("exception", t.toValue)]
    | none => []

/-- The line of the entry in a file, if all of it can be written. -/
def fileLine (e : Entry) : Except Failure String :=
  match Time.momentOf e.time with
  | .error f => .error f
  | .ok t => Json.writeOut (e.toValue t.text)

/-- The text of the entry on the console, given the time of day. -/
def consoleText (e : Entry) (clock : String) : String :=
  "[" ++ clock ++ "] [" ++ e.componentName ++ "] " ++
    (if e.level = Level.info then "" else e.level.name ++ ": ") ++ e.message ++
    match e.trouble with
    | some t => "\n" ++ t.line
    | none => ""

def consoleLine (e : Entry) : Except Failure String :=
  (Time.localMomentOf e.time).map fun t => e.consoleText t.clockText

end Entry

end DocumentStore.Log
