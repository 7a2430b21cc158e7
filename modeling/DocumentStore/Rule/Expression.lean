/-
  DocumentStore.Rule.Expression — rules written as text: a predicate's name, maybe negated,
  maybe called with arguments.

  Blanks may stand anywhere but inside a name. `true` and `false` take no arguments. A
  built-in predicate takes exactly the arguments it is about; any other predicate takes
  what it likes of `user`, `data` and `newData`. Names are looked up, never run.
-/

import DocumentStore.Rule.Basic
import DocumentStore.Text.Blank
import DocumentStore.Text.Split
import DocumentStore.Text.Word

namespace DocumentStore.Rule

structure Expression where
  negated : Bool
  name : String
  /-- The arguments, unless there are none or an empty pair of brackets. -/
  arguments : Option (List String)
  deriving DecidableEq, Repr

def skipBlank (cs : List Char) : List Char := cs.dropWhile Text.isBlank

def isArgumentChar (c : Char) : Bool :=
  Text.isWordChar c || Text.isBlank c || c == ',' || c == '.'

def readArguments (cs : List Char) : Option (List String) :=
  match (Text.splitAt ',' cs).map Text.trim with
  | [[]] => none
  | pieces => some (pieces.map String.ofList)

/-- What may follow a name: nothing, or arguments in brackets. -/
def readCall (cs : List Char) : Option (Option (List String)) :=
  match cs with
  | [] => some none
  | '(' :: cs =>
    match cs.dropWhile isArgumentChar with
    | ')' :: rest =>
      if (skipBlank rest).isEmpty then some (readArguments (cs.takeWhile isArgumentChar)) else none
    | _ => none
  | _ => none

def Expression.read? (text : String) : Option Expression :=
  let cs := skipBlank text.toList
  let (negated, cs) := match cs with
    | '!' :: cs => (true, skipBlank cs)
    | cs => (false, cs)
  let name := cs.takeWhile Text.isWordChar
  if Text.isName name then
    (readCall (skipBlank (cs.dropWhile Text.isWordChar))).map fun arguments =>
      ⟨negated, String.ofList name, arguments⟩
  else none

/-! ## Predicates by name -/

abbrev Registry := Named Predicate

namespace Registry

def builtIn : Registry :=
  [("isOwner", .isOwner), ("isNewOwner", .isNewOwner), ("isAuthenticated", .isAuthenticated),
    ("isGuest", .isGuest)]

/-- The built-in predicates with others put over them. -/
def withPredicates (predicates : List (String × Predicate)) : Registry :=
  Keyed.overlay builtIn predicates

def register (registry : Registry) (name : String) (p : Predicate) : Except Failure Registry :=
  if Text.isName name.toList then .ok (registry.put name p)
  else .error (.rules (.predicateName name))

end Registry

/-- What rules may name as arguments. -/
def bindings : List String := ["user", "data", "newData"]

/-- The predicate that a built-in one stands for when called with these arguments. -/
def builtInCall (p : Predicate) (arguments : List String) : Option String :=
  match p with
  | .isOwner =>
    if arguments = ["user", "data"] then some "isOwner"
    else if arguments = ["user", "newData"] then some "isNewOwner"
    else none
  | .isNewOwner => if arguments = ["user", "newData"] then some "isNewOwner" else none
  | .isAuthenticated => if arguments = ["user"] then some "isAuthenticated" else none
  | .isGuest => if arguments = ["user"] then some "isGuest" else none
  | .custom _ => none

/-- The name of the predicate that a call selects. -/
def selectCall (text name : String) (p : Predicate) (arguments : List String) :
    Except Failure String :=
  if p.builtInName? = some name then
    match builtInCall p arguments with
    | some selected => .ok selected
    | none => .error (.rules (.arguments name text))
  else
    match arguments.find? fun a => !bindings.contains a with
    | some a => .error (.rules (.binding a text))
    | none => .ok name

/-- The rule that asks the predicate registered under a name. -/
def ofPredicate (registry : Registry) (negated : Bool) (name : String) : Except Failure Rule :=
  match registry.get? name with
  | none => .error (.rules (.predicate name))
  | some .isOwner =>
    .ok (if name = "isOwner" ∧ !negated then .owner else .named name negated .isOwner)
  | some p => .ok (.named name negated p)

def compileExpression (registry : Registry) (text : String) : Except Failure Rule :=
  match Expression.read? text with
  | none => .error (.rules (.expression text))
  | some e =>
    if e.name = "true" ∨ e.name = "false" then
      if e.arguments.isSome then .error (.rules (.literalArguments text))
      else .ok (if (e.name == "true") != e.negated then .allow else .deny)
    else
      match registry.get? e.name, e.arguments with
      | none, _ => .error (.rules (.predicate e.name))
      | some _, none => ofPredicate registry e.negated e.name
      | some p, some arguments =>
        match selectCall text e.name p arguments with
        | .error f => .error f
        | .ok name => ofPredicate registry e.negated name

end DocumentStore.Rule
