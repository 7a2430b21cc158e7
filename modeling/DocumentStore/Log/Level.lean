/-
  DocumentStore.Log.Level — how grave an entry is, as a number.

  Five numbers have names, and so has zero; two have a second name. A threshold of zero is
  no threshold of its own: warnings and graver entries pass then.
-/

import DocumentStore.Failure
import DocumentStore.Text.Case
import DocumentStore.Value.Shown

namespace DocumentStore.Log

abbrev Level := Int

namespace Level

def debug : Level := 10

def info : Level := 20

def warning : Level := 30

def error : Level := 40

def critical : Level := 50

def unset : Level := 0

def name (level : Level) : String :=
  if level = critical then "CRITICAL"
  else if level = error then "ERROR"
  else if level = warning then "WARNING"
  else if level = info then "INFO"
  else if level = debug then "DEBUG"
  else if level = unset then "NOTSET"
  else "Level " ++ Decimal.intText level

def ofName? (name : String) : Option Level :=
  if name = "CRITICAL" ∨ name = "FATAL" then some critical
  else if name = "ERROR" then some error
  else if name = "WARNING" ∨ name = "WARN" then some warning
  else if name = "INFO" then some info
  else if name = "DEBUG" then some debug
  else if name = "NOTSET" then some unset
  else none

/-- The level that a name in any letter case stands for. -/
def read (text : String) : Except Failure Level :=
  let name := Text.upper text
  match ofName? name with
  | some level => .ok level
  | none => .error (.value (.level ("Level " ++ name)))

/-- The level that a value stands for: a number itself, a text as the name it is. -/
def ofValue : Value → Except Failure Level
  | .int n => .ok n
  | .bool b => .ok (if b then 1 else 0)
  | .text s => read s
  | v => v.showing.bind fun shown => .error (.levelKind shown)

/-- Whether entries of a level pass a threshold. -/
def passes (threshold level : Level) : Bool :=
  let least := if threshold = unset then warning else threshold
  decide (0 < level) && decide (least ≤ level)

end Level

end DocumentStore.Log
