/-
  DocumentStore.Log.Session — logging from the moment it is set up.

  A session has a threshold and, unless it only writes to the console, a directory for its
  file. Components whose names are the same in lower case, blanks and underscores alike,
  are one; it goes by the name under which it was met first. The program's own components
  are met before all others.
-/

import DocumentStore.Log.Entry
import DocumentStore.Path

namespace DocumentStore.Log

structure Session where
  directory : Option Path
  threshold : Level
  /-- The names that components go by, under their keys. -/
  components : Named String

/-- Something to be logged. -/
structure Event where
  component : String
  level : Level
  message : String
  context : Record

/-- The names of what logging takes beside the extra context. -/
def takenNames : List String := ["logger", "level", "message", "context"]

/-- The event with more context, none of it under the name of something else that logging takes. -/
def Event.withExtra (e : Event) (extra : Record) : Except Failure Event :=
  match (Keyed.names extra).find? takenNames.contains with
  | some name => .error (.givenTwice "log_with_context" name)
  | none => .ok { e with context := Keyed.overlay e.context extra }

/-- An event that passed: the level stays, the component goes by its name. -/
abbrev Passed := Event

namespace Session

def fileName : String := "docstore.log"

def logFile (directory : Path) : Path := directory.child fileName

/-- What two names of one component have in common. -/
def componentKey (name : String) : String :=
  (Text.lower name).map fun c => if c = ' ' then '_' else c

def withComponent (components : Named String) (name : String) : Named String :=
  if components.has (componentKey name) then components
  else components.put (componentKey name) name

/-- The components of the program itself. -/
def standing : Named String := ["API", "Store", "Query", "Rules", "Auth"].foldl withComponent []

/-- Logs an event; what does not reach the threshold goes nowhere. -/
def log (s : Session) (e : Event) : Option Passed × Session :=
  let components := withComponent s.components e.component
  let s := { s with components }
  if s.threshold.passes e.level then
    (some { e with component := (components.get? (componentKey e.component)).getD e.component }, s)
  else (none, s)

def logAll (s : Session) : List Event → List Passed × Session
  | [] => ([], s)
  | e :: rest =>
    let (passed, s) := s.log e
    let (more, s) := logAll s rest
    (passed.toList ++ more, s)

/-- What a session with a file says first. -/
def opening (directory : Path) : Event :=
  ⟨"API", Level.info, "Logging initialized",
    [("log_format", .text "jsonl"), ("log_file", .text (logFile directory).text)]⟩

/-- A new session, and what it logs at once. -/
def start (directory : Option Path) (threshold : Level) : List Passed × Session :=
  logAll ⟨directory, threshold, standing⟩ (directory.map opening).toList

end Session

/-- The entry of an event, but for when and where it happened. -/
def Event.entry (e : Event) (time : Int) (origin : Origin) : Entry :=
  ⟨time, e.level, some e.component, e.message, .object e.context, origin, none⟩

end DocumentStore.Log
