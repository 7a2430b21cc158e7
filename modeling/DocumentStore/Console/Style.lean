/-
  DocumentStore.Console.Style — styles, and the one way of writing each.

  A style is written in words: attributes that are on, or off behind `not`, a colour, a colour
  of the ground behind `on`, and a link behind `link`. Two definitions of one style have the same
  normal form: attributes in a fixed order and under their full names, then the colour, the
  ground and the link. A text that defines no style is its own name, in small letters.
-/

import DocumentStore.Console.ColourTable
import DocumentStore.Failure
import DocumentStore.Named
import DocumentStore.Text.Case
import DocumentStore.Text.Digit
import DocumentStore.Text.Hexadecimal
import DocumentStore.Text.Split

namespace DocumentStore.Console

/-! ## Colours -/

/-- Whether the text is the name of a colour. -/
def isColourName (cs : List Char) : Bool :=
  colourLines.any fun line => (Text.splitAt ' ' line.toList).contains cs

/-- The text between a name with an opening bracket and the closing one. -/
def bracketed? (name : String) (cs : List Char) : Option (List Char) :=
  match Text.afterLead (name.toList ++ ['(']) cs with
  | some rest => if rest.getLast? = some ')' then some rest.dropLast else none
  | none => none

def isHexColour (cs : List Char) : Bool :=
  match cs with
  | '#' :: digits => digits.length == 6 && digits.all fun c => (Text.hexValue? c).isSome
  | _ => false

/-- Whether the text is a colour by its number, which is at most 255. -/
def isNumberedColour (cs : List Char) : Bool :=
  match bracketed? "color" cs with
  | some digits =>
    1 ≤ digits.length && digits.length ≤ 3 && digits.all Char.isDigit &&
      Text.ofDigits (digits.map fun c => c.toNat - 48) ≤ 255
  | none => false

/-- Whether the text is a colour by its three parts, each at most 255. Parts that have to be
numbers and are none are a fault. -/
def isMixedColour (cs : List Char) : Except Failure Bool :=
  match bracketed? "rgb" cs with
  | some parts =>
    if !parts.isEmpty && parts.all fun c => c == ',' || (Text.decimalValue? c).isSome then
      match Text.splitAt ',' parts with
      | [red, green, blue] =>
        ([red, green, blue].mapM fun part => Failure.readWhole (String.ofList part)).map fun ns =>
          ns.all (· ≤ 255)
      | _ => .ok false
    else .ok false
  | none => .ok false

/-- The name of the colour that a word gives, if it gives one. -/
def colour? (word : String) : Except Failure (Option String) :=
  let name := Text.lower word
  let cs := name.toList
  if name = "default" ∨ isColourName cs ∨ isHexColour cs ∨ isNumberedColour cs then
    .ok (some name)
  else (isMixedColour cs).map fun found => if found then some name else none

/-! ## Styles -/

/-- The attributes, in the order in which they are written. -/
def attributes : List String :=
  ["bold", "dim", "italic", "underline", "blink", "blink2", "reverse", "conceal", "strike",
    "underline2", "frame", "encircle", "overline"]

def abbreviations : Named String :=
  [("d", "dim"), ("b", "bold"), ("i", "italic"), ("u", "underline"), ("r", "reverse"),
    ("c", "conceal"), ("s", "strike"), ("uu", "underline2"), ("o", "overline")]

/-- The attribute that a word stands for. -/
def attribute? (word : String) : Option String :=
  if attributes.contains word then some word else abbreviations.get? word

structure Style where
  /-- The attributes that are on or off; the others are as they were. -/
  switched : Named Bool
  colour : Option String
  ground : Option String
  link : Option String

namespace Style

def plain : Style := ⟨[], none, none, none⟩

/-- The style with what more words define, if they do. -/
def withWords? (s : Style) : List String → Except Failure (Option Style)
  | [] => .ok (some s)
  | word :: rest =>
    match Text.lower word, rest with
    | "on", [] => .ok none
    | "on", ground :: rest =>
      match colour? ground with
      | .error f => .error f
      | .ok none => .ok none
      | .ok (some name) => withWords? { s with ground := some name } rest
    | "not", [] => .ok none
    | "not", word :: rest =>
      match attribute? word with
      | none => .ok none
      | some a => withWords? { s with switched := s.switched.put a false } rest
    | "link", [] => .ok none
    | "link", url :: rest => withWords? { s with link := some url } rest
    | word, rest =>
      match attribute? word with
      | some a => withWords? { s with switched := s.switched.put a true } rest
      | none =>
        match colour? word with
        | .error f => .error f
        | .ok none => .ok none
        | .ok (some name) => withWords? { s with colour := some name } rest

/-- The words of a style in its normal form. -/
def words (s : Style) : List String :=
  let written := attributes.flatMap fun a =>
    match s.switched.get? a with
    | some true => [a]
    | some false => ["not", a]
    | none => []
  written ++ s.colour.toList ++ (s.ground.map fun g => ["on", g]).getD [] ++
    (s.link.map fun l => ["link", l]).getD []

def text (s : Style) : String :=
  match s.words with
  | [] => "none"
  | words => String.intercalate " " words

end Style

/-- The normal form of a definition, or the definition in small letters if it is none. -/
def normalStyle (definition : List Char) : Except Failure (List Char) :=
  let trimmed := Text.trim definition
  if trimmed = "none".toList ∨ definition.isEmpty then .ok "none".toList
  else
    (Style.plain.withWords? ((Text.words definition).map String.ofList)).map fun style =>
      match style with
      | some s => s.text.toList
      | none => Text.lowerChars trimmed

end DocumentStore.Console
