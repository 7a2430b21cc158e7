/-
  DocumentStore.Settings — how a server process is to run.

  Settings are given by name, first by variables of the environment, then by values that
  override them; null overrides nothing and names that are no settings are not looked at. A
  variable that is empty is not there, but for the log directory, where it says that there
  is none. A value may be of another type if it says the same: a port may be a text of
  digits, a flag a word.
-/

import DocumentStore.Caller
import DocumentStore.Decimal.Lenient
import DocumentStore.Path
import DocumentStore.Text.Blank
import DocumentStore.Text.Case

namespace DocumentStore

structure Settings where
  host : String
  port : Nat
  specPath : Option Path
  logDir : Option Path
  logLevel : String
  throttle : Bool
  secret : Option String
  deriving DecidableEq, Repr

namespace Settings

open DocumentStore.Decimal

def default : Settings :=
  ⟨"127.0.0.1", 3030, none, some (.ofText ".docstore/logs"), "INFO", false, none⟩

def maxPort : Int := 65535

/-! ## Variables -/

abbrev Environment := Named String

/-- A variable that is there and not empty. -/
def filled? (env : Environment) (name : String) : Option String :=
  (env.get? name).filter fun text => !text.isEmpty

def throttleWords : List String := ["1", "true", "yes", "on"]

/-- A setting as a list of one, if its variable is there. -/
def given (env : Environment) (name : String) (field : String) (read : String → Value) : Record :=
  match filled? env name with
  | some text => [(field, read text)]
  | none => []

def givenPort (env : Environment) : Except Failure Record :=
  match filled? env "DOCSTORE_PORT" with
  | none => .ok []
  | some text => (Failure.readWhole text).map fun n => [("port", .int n)]

def givenLogDir (env : Environment) : Record :=
  match env.get? "DOCSTORE_LOG_DIR" with
  | none => []
  | some dir => [("log_dir", if dir.isEmpty then .null else .text dir)]

/-- The settings that the environment gives, by name. -/
def ofVariables (env : Environment) : Except Failure Record :=
  (givenPort env).map fun port =>
    given env "DOCSTORE_HOST" "host" .text ++ port ++
      given env "DOCSTORE_SPEC" "spec_path" .text ++ givenLogDir env ++
      given env "DOCSTORE_LOG_LEVEL" "log_level" (fun level => .text (Text.upper level)) ++
      given env "DOCSTORE_THROTTLE" "throttle"
        (fun word => .bool (throttleWords.contains (Text.lower word))) ++
      given env "DOCSTORE_SECRET" "auth_secret" .text

/-! ## Values -/

def whole? : Value → Option Int
  | .bool b => some (if b then 1 else 0)
  | .int n => some n
  | .float x =>
    match x.truncate? with
    | some n => if (Number.int n).sameValue (.float x) then some n else none
    | none => none
  | .text s => Lenient.read? s
  | _ => none

def port? (v : Value) : Option Nat :=
  match whole? v with
  | some n => if 0 ≤ n ∧ n ≤ maxPort then some n.toNat else none
  | none => none

def text? : Value → Option String
  | .text s => some s
  | _ => none

def optional? {α : Type} (read : Value → Option α) : Value → Option (Option α)
  | .null => some none
  | v => (read v).map some

def path? (v : Value) : Option Path := (text? v).map Path.ofText

/-- The value of a setting, the default if it is not given. -/
def field {α : Type} (values : Record) (name : String) (read : Value → Option α) (default : α) :
    Except Failure α :=
  match values.get? name with
  | none => .ok default
  | some v =>
    match read v with
    | some a => .ok a
    | none => .error .shape

def ofValues (values : Record) : Except Failure Settings := do
  pure ⟨← field values "host" text? default.host, ← field values "port" port? default.port,
    ← field values "spec_path" (optional? path?) default.specPath,
    ← field values "log_dir" (optional? path?) default.logDir,
    ← field values "log_level" text? default.logLevel,
    ← field values "throttle" Caller.flag? default.throttle,
    ← field values "auth_secret" (optional? text?) default.secret⟩

/-- The settings of the environment under overriding values. What is asked for the settings has a
name of its own, and no value may go by it. -/
def read (env : Environment) (overrides : Record) : Except Failure Settings :=
  match env.findSome? fun e => Failure.ofSystemText? e.2 with
  | some f => .error f
  | none =>
    if overrides.has "cls" then .error (.givenTwice "ServerSettings.from_env" "cls")
    else
      match ofVariables env with
      | .error f => .error f
      | .ok values => ofValues (values.overlay (overrides.filter fun o => o.2 != .null))

end Settings

end DocumentStore
