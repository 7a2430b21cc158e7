/-
  DocumentStore.Main — the command line program.

  It reads the environment and the file that its words name, runs the command, prints and
  logs what the command gave, and ends with its status. Opening the port that `serve`
  announces is left to the process around it.
-/

import DocumentStore.Command.Run
import Std.Time.DateTime.Timestamp

namespace DocumentStore.Program

/-- The variables that settings are read from. -/
def settingVariables : List String :=
  ["DOCSTORE_HOST", "DOCSTORE_PORT", "DOCSTORE_SPEC", "DOCSTORE_LOG_DIR", "DOCSTORE_LOG_LEVEL",
    "DOCSTORE_THROTTLE", "DOCSTORE_SECRET"]

def readVariables : IO Settings.Environment :=
  settingVariables.filterMapM fun name => return (← IO.getEnv name).map fun text => (name, text)

/-- The file that a command may want. -/
def wantedFile (environment : Settings.Environment) : Command.Invocation → Option String
  | .rules path => some path
  | .serve options => options.spec <|> environment.get? "DOCSTORE_SPEC"
  | _ => none

def readFiles (wanted : Option String) : IO Files :=
  match wanted with
  | none => pure []
  | some name => do
    match ← (IO.FS.readFile name).toBaseIO with
    | .ok text => pure (.ofTexts [(name, text)])
    | .error _ => pure []

def appendLog (directory : Option Path) (entries : List Log.Entry) : IO Unit :=
  match directory with
  | none => pure ()
  | some dir => do
    IO.FS.createDirAll dir.text
    let handle ← IO.FS.Handle.mk (Log.Session.logFile dir).text .append
    for e in entries do
      match e.fileLine with
      | .ok line => handle.putStrLn line
      | .error _ => pure ()

def now : IO Int := do
  let t ← Std.Time.Timestamp.now
  pure (t.toNanosecondsSinceUnixEpoch.val / 1000)

end DocumentStore.Program

open DocumentStore DocumentStore.Program

def main (args : List String) : IO UInt32 := do
  let environment ← readVariables
  let invocation := Command.Invocation.read args
  let time ← now
  let files ← readFiles (wantedFile environment invocation)
  let o := Command.run ⟨files, environment, time⟩ invocation
  let clock := match Time.momentOf time with
    | .ok t => t.clockText
    | .error _ => ""
  IO.print (o.text clock)
  appendLog o.logDirectory o.log
  if o.status = Command.misuseStatus then
    IO.eprintln ("Usage: " ++ Command.programPage.usage)
  match o.failure with
  | some f => IO.eprintln f.message
  | none => pure ()
  pure (UInt32.ofNat o.status)
