/-
  DocumentStore.Command.Run — what a command does: prints, exits, serves.

  `rules` lists the rules of a setup, `serve` starts a server on it. What is wrong with a
  file or its rules is printed by `rules`; while serving starts, only a file that is not
  there is. Any other failure ends the command as it is.

  A server says where it listens before it sets up its log, and logs before it reads its
  setup.
-/

import DocumentStore.Command.Help
import DocumentStore.Console.Markup
import DocumentStore.Console.Table
import DocumentStore.Log.Session
import DocumentStore.Server
import DocumentStore.Settings
import DocumentStore.Setup.File

namespace DocumentStore.Command

/-- What a command has at hand. -/
structure World where
  files : Files
  environment : Settings.Environment
  /-- The time, in microseconds. -/
  time : Int

/-- Where and how a server is to listen. -/
structure Serving where
  host : String
  port : Nat
  logLevel : String
  deriving DecidableEq, Repr

structure Outcome where
  status : Nat
  lines : List (List Char)
  log : List Log.Entry
  /-- Where the log file is. -/
  logDirectory : Option Path
  serving : Option Serving
  /-- What ended the command, if it did not end by itself. -/
  failure : Option Failure

namespace Outcome

def done (status : Nat) (lines : List (List Char)) : Outcome :=
  ⟨status, lines, [], none, none, none⟩

/-- The outcome of a command that ended in a failure, after some lines. -/
def died (o : Outcome) (f : Failure) : Outcome := { o with status := 1, failure := some f }

/-- The outcome of a command that ended in a failure before it printed anything. -/
def ofFailure (f : Failure) : Outcome := (done 0 []).died f

end Outcome

def consoleWidth : Nat := 500

def versionText : String := "docstore 0.3.0"

/-- The lines, if all of them can be written. -/
def writable (lines : List (List Char)) : Except Failure (List (List Char)) :=
  let text := Text.join ['\n'] lines
  if Text.isEncodable text then .ok lines else .error (.unencodable (String.ofList text))

/-- The lines of a text with style tags. -/
def printed (text : String) : Except Failure (List (List Char)) :=
  (Console.plain text.toList).bind fun cs => writable (Console.wrap .broken consoleWidth cs)

/-- Ends a command with the lines that it prints. -/
def endWith (status : Nat) (lines : Except Failure (List (List Char))) : Outcome :=
  match lines with
  | .ok lines => .done status lines
  | .error f => .ofFailure f

/-! ## Listing rules -/

def columnNames : List String := ["Collection", "Scope", "Action", "Rule"]

def cellOf (text : String) : Except Failure Console.Cell :=
  (Console.plain text.toList).map Console.Table.cell

def rowOf (l : Rule.Listed) : Except Failure (List Console.Cell) :=
  [l.collection.asText, if l.scope.isEmpty then "-" else l.scope, l.action, l.rule.describe].mapM cellOf

def tableOf (title : String) (rules : Rule.Rules) : Except Failure Console.Table := do
  pure ⟨← Console.plain title.toList, ← columnNames.mapM cellOf, ← rules.list.mapM rowOf⟩

/-- Ends a command that found something wrong with a file or its rules, and says so. Any other
failure ends it as it is. -/
def complain (f : Failure) : Outcome :=
  match f with
  | .rules why => endWith 1 (printed ("[red]Invalid rules:[/red] " ++ why.message))
  | .value why => endWith 1 (printed ("[red]" ++ why.message ++ "[/red]"))
  | .unencodable text => endWith 1 (printed ("[red]" ++ unencodableMessage text ++ "[/red]"))
  | f => .ofFailure f

def listRules (files : Files) (path : Path) : Outcome :=
  match (Setup.load files path).bind Server.engineOf with
  | .error f => complain f
  | .ok engine =>
    endWith 0 ((tableOf ("Rules (" ++ path.name ++ ")") engine.rules).bind fun table =>
      writable (table.lines consoleWidth))

/-! ## Serving -/

def overridesOf (o : ServeOptions) : Record :=
  let given (name : String) (v : Option Value) : Record := (v.map fun v => (name, v)).toList
  given "host" (o.host.map .text) ++ given "port" (o.port.map .int) ++
    (if o.throttle then [("throttle", .bool true)] else []) ++
    given "log_level" ((o.logLevel.filter fun l => !l.isEmpty).map fun l => .text (Text.upper l))

def address (s : Settings) : String :=
  "http://" ++ s.host ++ ":" ++ Decimal.intText s.port ++ "/"

def setupFor (files : Files) (s : Settings) : Except Failure Setup :=
  match s.specPath with
  | some path => Setup.load files path
  | none => .ok .empty

/-- The number of collections that have rules of their own. -/
def loadedRules (engine : Rule.Engine) : Log.Event :=
  ⟨"Rules", Log.Level.debug,
    "Loaded rules for " ++ Decimal.intText engine.rules.collections.length ++ " collection(s)", []⟩

def say (message : String) : Log.Event := ⟨"API", Log.Level.info, message, []⟩

/-- The setup of a server with its rules, its collections being in order. -/
def checkedSetup (files : Files) (s : Settings) : Except Failure (Setup × Rule.Engine) := do
  let setup ← setupFor files s
  let _ ← Collections.ofSeed (.object setup.seed)
  let _ ← Collections.ofSeed (.object setup.accounts)
  pure (setup, ← Server.engineOf setup)

/-- What a starting server logs, and what ends it if it cannot start. -/
def startUp (files : Files) (s : Settings) : List Log.Event × Option Failure :=
  match checkedSetup files s with
  | .error f => ([], some f)
  | .ok (setup, engine) =>
    match Server.treeOf setup with
    | .error f => ([loadedRules engine], some f)
    | .ok _ => ([loadedRules engine, say ("Server started on " ++ address s)], none)

/-- The outcome with what is logged after a log was set up. -/
def logged (w : World) (s : Settings) (session : Log.Session) (opening : List Log.Event)
    (o : Outcome) : Outcome :=
  let writing := s.logDir.map fun dir => say ("Writing logs to " ++ dir.text)
  let (events, failure) := startUp w.files s
  let passed := opening ++ (session.logAll (writing.toList ++ events)).1
  let o := { o with
    log := passed.map fun (e : Log.Event) => e.entry w.time ⟨"", 0, ""⟩
    logDirectory := s.logDir }
  match failure with
  | some f => o.died f
  | none => { o with serving := some ⟨s.host, s.port, Text.lower s.logLevel⟩ }

def startServer (w : World) (s : Settings) : Outcome :=
  match printed ("[green]docstore[/green] listening on " ++ address s) with
  | .error f => .ofFailure f
  | .ok lines =>
    match Log.Level.read s.logLevel with
    | .error f => (Outcome.done 0 lines).died f
    | .ok level =>
      match s.logDir.bind fun dir => w.files.writingFault? dir (Log.Session.logFile dir) with
      | some f => (Outcome.done 0 lines).died f
      | none =>
        let (opening, session) := Log.Session.start s.logDir level
        logged w s session opening (.done 0 lines)

/-- The settings of a server, the setup that the options name going before any other. -/
def settingsOf (w : World) (o : ServeOptions) : Except Failure Settings :=
  (Settings.read w.environment (overridesOf o)).map fun s =>
    match o.spec with
    | some name => { s with specPath := some (.ofText name) }
    | none => s

def serve (w : World) (options : ServeOptions) : Outcome :=
  match settingsOf w options with
  | .error f => .ofFailure f
  | .ok s =>
    match s.specPath with
    | none => startServer w s
    | some path =>
      match w.files.holds path with
      | .error f => .ofFailure f
      | .ok true => startServer w s
      | .ok false => endWith 1 (printed ("[red]Spec file not found: " ++ path.text ++ "[/red]"))

/-! ## All commands -/

/-- The status of a command line that asks for nothing that there is. -/
def misuseStatus : Nat := 2

/-- Completion needs a shell that is known, and none is. -/
def run (w : World) : Invocation → Outcome
  | .version => endWith 0 (printed versionText)
  | .help verb => .done 0 ((helpPage verb).lines consoleWidth)
  | .completion => .done 1 []
  | .misuse => .done misuseStatus []
  | .rules path => listRules w.files (.ofText path)
  | .serve options => serve w options

/-- All that the outcome prints, the log behind the command's own lines. -/
def Outcome.text (o : Outcome) (clock : String) : String :=
  String.join (o.lines.map fun l => String.ofList l ++ "\n") ++
    String.join (o.log.map fun e => e.consoleText clock ++ "\n")

end DocumentStore.Command
