/-
  DocumentStore.Command.Arguments — what the words of a command line ask for.

  A word that starts with a dash and is longer than it is an option, until a word of two
  dashes ends the options. A long option may have its value behind an equals sign, a short
  one right behind its letter; otherwise the next word is the value, whatever it is. Of
  repeated options the last one counts. Options of the program stand before the command's
  name, options of the command anywhere behind it.

  Asking for help or for the version goes before everything but a word that cannot be read.
-/

import DocumentStore.Decimal.Lenient
import DocumentStore.Named
import DocumentStore.Text.Split

namespace DocumentStore.Command

open DocumentStore.Decimal

/-- What an option or argument is given as. A flag is given by its name alone. -/
inductive Kind where
  | flag
  | text
  | whole
  | path
  deriving DecidableEq, Repr

/-- An option by its name without dashes, or an argument. -/
structure Choice where
  name : String
  letter : Option Char
  kind : Kind
  about : String
  deriving DecidableEq, Repr

def Choice.takesValue (c : Choice) : Bool := c.kind != .flag

/-- The options and other words of a command line. -/
structure Words where
  /-- In the order given; options without value have an empty one. -/
  options : List (String × String)
  others : List String
  deriving DecidableEq, Repr

namespace Words

def empty : Words := ⟨[], []⟩

def option? (w : Words) (name : String) : Option String :=
  (w.options.reverse.find? fun o => o.1 == name).map (·.2)

def has (w : Words) (name : String) : Bool := (w.option? name).isSome

def withOption (w : Words) (name value : String) : Words :=
  { w with options := w.options ++ [(name, value)] }

def withOthers (w : Words) (others : List String) : Words :=
  { w with others := w.others ++ others }

end Words

/-- What reading a word leads to: options, and perhaps one that still needs its value. -/
inductive WordReading where
  | complete (options : List (String × String))
  | needsValue (options : List (String × String)) (name : String)
  | refused

/-- The letters of a word behind its dash, each an option of its own until one takes the
rest as its value. -/
def readLetters (choices : List Choice) (options : List (String × String)) :
    List Char → WordReading
  | [] => .complete options
  | c :: cs =>
    match choices.find? fun o => o.letter == some c with
    | none => .refused
    | some o =>
      if o.takesValue then
        if cs.isEmpty then .needsValue options o.name
        else .complete (options ++ [(o.name, String.ofList cs)])
      else readLetters choices (options ++ [(o.name, "")]) cs

/-- A long option behind its dashes. -/
def readLong (choices : List Choice) (cs : List Char) : WordReading :=
  let (name, value) := match Text.cut '=' cs with
    | some (name, value) => (name, some value)
    | none => (cs, none)
  match choices.find? fun o => o.name.toList == name with
  | none => .refused
  | some o =>
    match value with
    | some v => if o.takesValue then .complete [(o.name, String.ofList v)] else .refused
    | none => if o.takesValue then .needsValue [] o.name else .complete [(o.name, "")]

/-- Whether a word is an option. -/
def isOption (word : String) : Bool :=
  match word.toList with
  | '-' :: _ :: _ => true
  | _ => false

def readOption (choices : List Choice) (word : String) : WordReading :=
  match word.toList with
  | '-' :: '-' :: cs => readLong choices cs
  | '-' :: cs => readLetters choices [] cs
  | _ => .refused

/-- The words read; `pending` is an option that needs its value, and `mixed` says that
options may follow other words. -/
def readWords (choices : List Choice) (mixed : Bool) (w : Words) (pending : Option String) :
    List String → Option Words
  | [] => if pending.isSome then none else some w
  | word :: rest =>
    match pending with
    | some name => readWords choices mixed (w.withOption name word) none rest
    | none =>
      if word = "--" then some (w.withOthers rest)
      else if isOption word then
        match readOption choices word with
        | .refused => none
        | .complete options =>
          readWords choices mixed { w with options := w.options ++ options } none rest
        | .needsValue options name =>
          readWords choices mixed { w with options := w.options ++ options } (some name) rest
      else if mixed then readWords choices mixed (w.withOthers [word]) none rest
      else some (w.withOthers (word :: rest))

/-! ## Commands -/

inductive Verb where
  | serve
  | rules
  deriving DecidableEq, Repr

def helpChoice : Choice := ⟨"help", none, .flag, "Show this message and exit."⟩

def programChoices : List Choice :=
  [⟨"version", none, .flag, "Show version"⟩,
    ⟨"install-completion", none, .flag, "Install completion for the current shell."⟩,
    ⟨"show-completion", none, .flag, "Show completion for the current shell, to copy it or " ++
      "customize the installation."⟩, helpChoice]

namespace Verb

def all : List Verb := [.serve, .rules]

def name : Verb → String
  | .serve => "serve"
  | .rules => "rules"

def about : Verb → String
  | .serve => "Run the HTTP server."
  | .rules => "Validate the rules document of a spec file and list the compiled rules."

def ofName? (name : String) : Option Verb := all.find? fun v => v.name == name

def arguments : Verb → List Choice
  | .serve => []
  | .rules => [⟨"path", none, .path, "Spec file (.json or .toml)"⟩]

def choices : Verb → List Choice
  | .serve =>
    [⟨"host", none, .text, "Host to bind to"⟩, ⟨"port", some 'p', .whole, "Port to bind to"⟩,
      ⟨"spec", some 's', .path, "Seed data and rules file (.json or .toml)"⟩,
      ⟨"throttle", none, .flag, "Delay every response by 500-1000 ms"⟩,
      ⟨"log-level", none, .text, "Log level"⟩, helpChoice]
  | .rules => [helpChoice]

end Verb

structure ServeOptions where
  host : Option String
  port : Option Int
  spec : Option String
  throttle : Bool
  logLevel : Option String
  deriving DecidableEq, Repr

inductive Invocation where
  | version
  /-- Help on a command, or on the program. -/
  | help (verb : Option Verb)
  /-- Completion of words in a shell. -/
  | completion
  | serve (options : ServeOptions)
  | rules (path : String)
  /-- The words ask for nothing that there is. -/
  | misuse
  deriving DecidableEq, Repr

/-- A port given as text, a whole number if it is given at all. -/
def readPort : Option String → Option (Option Int)
  | none => some none
  | some text => (Lenient.read? text).map some

/-- What the words behind a command's name ask for. -/
def Verb.invocation (v : Verb) (w : Words) : Invocation :=
  if w.has "help" then .help (some v)
  else
    match v, w.others with
    | .serve, [] =>
      match readPort (w.option? "port") with
      | some port =>
        .serve ⟨w.option? "host", port, w.option? "spec", w.has "throttle", w.option? "log-level"⟩
      | none => .misuse
    | .rules, [path] => .rules path
    | _, _ => .misuse

def commandOf (name : String) (rest : List String) : Invocation :=
  match Verb.ofName? name with
  | some v => ((readWords v.choices true .empty none rest).map v.invocation).getD .misuse
  | none => .misuse

/-- What the first option of the program asks for. -/
def programInvocation (name : String) : Invocation :=
  if name = "version" then .version else if name = "help" then .help none else .completion

/-- What the words of a command line ask for. -/
def Invocation.read (words : List String) : Invocation :=
  match readWords programChoices false .empty none words with
  | none => .misuse
  | some w =>
    match w.options with
    | (name, _) :: _ => programInvocation name
    | [] =>
      match w.others with
      | name :: rest => commandOf name rest
      | [] => .misuse

end DocumentStore.Command
