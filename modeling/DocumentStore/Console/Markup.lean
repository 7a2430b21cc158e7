/-
  DocumentStore.Console.Markup — texts with style tags, as they look without colours.

  A tag stands in square brackets and begins with a small letter, `#`, `/` or `@`; other
  brackets are plain text. A backslash in front of a tag makes it plain, two make one. What stands
  between tags may hold emoji by their names.

  A tag has a name and, behind an equals sign, parameters. One that begins with a slash closes the
  last open tag that means the same style, or simply the last one if it gives no name; closing what
  is not open is a fault. A tag that begins with `@` names an action; once closed, its parameters
  have to be literals, behind the name of what is done and in brackets.
-/

import DocumentStore.Console.Emoji
import DocumentStore.Console.Literal
import DocumentStore.Console.Style

namespace DocumentStore.Console

inductive Part where
  | plain (cs : List Char)
  | tag (cs : List Char)
  deriving DecidableEq, Repr

def startsTag (c : Char) : Bool := ('a' ≤ c ∧ c ≤ 'z') ∨ c = '#' ∨ c = '/' ∨ c = '@'

/-- The inside of the tag behind an opening bracket. -/
def takeTag? (cs : List Char) : Option (List Char) :=
  match cs with
  | [] => none
  | c :: _ =>
    if startsTag c then
      let isInside := fun c : Char => c ≠ '[' && c ≠ ']'
      if (cs.dropWhile isInside).head? = some ']' then some (cs.takeWhile isInside) else none
    else none

/-- What backslashes and the tag behind them are. -/
def tagParts (slashes : Nat) (inside : List Char) : List Part :=
  [.plain (List.replicate (slashes / 2) '\\'),
    if slashes % 2 = 1 then .plain ('[' :: inside ++ [']']) else .tag inside]

/-- The parts of a text. `piece` is plain and was read already, last character first; `slashes`
backslashes came behind it; of a tag, `skip` characters are left over. -/
def partsFrom (piece : List Char) (slashes skip : Nat) : List Char → List Part
  | [] => [.plain (List.replicate slashes '\\' ++ piece).reverse]
  | c :: cs =>
    if skip ≠ 0 then partsFrom piece slashes (skip - 1) cs
    else if c = '\\' then partsFrom piece (slashes + 1) 0 cs
    else
      match if c = '[' then takeTag? cs else none with
      | some inside =>
        .plain piece.reverse :: tagParts slashes inside ++ partsFrom [] 0 (inside.length + 1) cs
      | none => partsFrom (c :: List.replicate slashes '\\' ++ piece) 0 0 cs

def parts (cs : List Char) : List Part := partsFrom [] 0 0 cs

/-- The text without the backslashes in front of opening brackets. -/
def dropEscapes : List Char → List Char
  | [] => []
  | '\\' :: '[' :: cs => '[' :: dropEscapes cs
  | c :: cs => c :: dropEscapes cs

/-! ## Tags -/

structure Tag where
  name : List Char
  parameters : Option (List Char)
  deriving DecidableEq, Repr

def Tag.read (cs : List Char) : Tag :=
  match Text.cut '=' cs with
  | some (name, parameters) => ⟨name, some parameters⟩
  | none => ⟨cs, none⟩

/-- The arguments of an action behind the name of what is done; both may be left out. What does
not look like that is all arguments. -/
def argumentsOf (parameters : List Char) : List Char :=
  let cs := Text.trim parameters
  match cs.dropWhile fun c => Text.isWordChar c || c == '.' with
  | [] => ['(', ')']
  | c :: rest =>
    if c = '(' ∧ rest.getLast? = some ')' ∧ !rest.contains '\n' then c :: rest else cs

/-- Whether a tag can be closed. -/
def Tag.isSound (t : Tag) : Bool :=
  match t.name, t.parameters with
  | '@' :: _, some parameters => parameters.isEmpty || Literal.isLiteral (argumentsOf parameters)
  | _, _ => true

/-- The open tags, the last one first, after closing one. -/
def close (stack : List Tag) : (name : Option (List Char)) → Except Failure (List Tag)
  | none =>
    match stack with
    | [] => .error .markup
    | t :: rest => if t.isSound then .ok rest else .error .markup
  | some name =>
    match stack.find? fun t => t.name == name with
    | none => .error .markup
    | some t => if t.isSound then .ok (stack.eraseP fun t => t.name == name) else .error .markup

/-- The open tags, the last one first, after another tag. -/
def openTags (stack : List Tag) (t : Tag) : Except Failure (List Tag) :=
  match t.name with
  | '/' :: name =>
    let name := Text.trim name
    if name.isEmpty then close stack none
    else (normalStyle name).bind fun name => close stack (some name)
  | name => (normalStyle name).map fun name => { t with name } :: stack

/-! ## The plain text -/

def plainFrom (stack : List Tag) : List Part → Except Failure (List Char)
  | [] => .ok []
  | .plain cs :: rest => (plainFrom stack rest).map (drawn (dropEscapes cs) ++ ·)
  | .tag cs :: rest =>
    match openTags stack (.read cs) with
    | .error f => .error f
    | .ok stack => plainFrom stack rest

/-- Controls that a console would act on. -/
def isStray (c : Char) : Bool :=
  c.toNat = 7 ∨ c.toNat = 8 ∨ c.toNat = 11 ∨ c.toNat = 12 ∨ c.toNat = 13

/-- The text without its tags. -/
def plain (cs : List Char) : Except Failure (List Char) :=
  (plainFrom [] (parts cs)).map fun cs => cs.filter fun c => !isStray c

end DocumentStore.Console
