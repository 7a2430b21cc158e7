/-
  DocumentStore.Value.Shown — the text of a value in messages, ids and owner checks.

  `shown` spells a value out: texts in quotes, items in brackets, members in braces with a
  colon after the name, and `None`, `True` and `False`. `text` is the same but for a text,
  which is left as it is. A foreign value shows the text that is known of it.

  Not everything can be written out: a whole number may have too many digits, and lists and
  objects may nest too deep for the room there is. Both are limits of the writer, and whichever
  is met first is its fault.
-/

import DocumentStore.Decimal.Numeral
import DocumentStore.Decimal.Shortest
import DocumentStore.Text.Quoted
import DocumentStore.Value.Draft

namespace DocumentStore

open DocumentStore.Decimal

def floatText (x : Binary64) : String := x.text "inf" "nan"

def commaSeparated : List String → String := String.intercalate ", "

def boolShown (b : Bool) : String := if b then "True" else "False"

/-- Items in round brackets, a comma behind a single one. -/
def tupleShown : List String → String
  | [item] => "(" ++ item ++ ",)"
  | items => "(" ++ commaSeparated items ++ ")"

mutual

def Key.shown : Key → String
  | .null => "None"
  | .bool b => boolShown b
  | .int n => intText n
  | .float x => floatText x
  | .text s => Text.quoted s
  | .tuple items => tupleShown (Key.shownItems items)
  | .foreign kind => kind

def Key.shownItems : List Key → List String
  | [] => []
  | k :: ks => Key.shown k :: Key.shownItems ks

end

/-- The text of a key: a text itself, anything else as `shown`. -/
def Key.asText : Key → String
  | .text s => s
  | k => k.shown

namespace Draft

mutual

def shown : Draft → String
  | .null => "None"
  | .bool b => boolShown b
  | .int n => intText n
  | .float x => floatText x
  | .text s => Text.quoted s
  | .list items => "[" ++ commaSeparated (shownItems items) ++ "]"
  | .tuple items => tupleShown (shownItems items)
  | .object members => "\x7b" ++ commaSeparated (shownMembers members) ++ "\x7d"
  | .foreign _ spelled => spelled

def shownItems : List Draft → List String
  | [] => []
  | d :: ds => shown d :: shownItems ds

def shownMembers : List (Key × Draft) → List String
  | [] => []
  | (k, d) :: ms => (k.shown ++ ": " ++ shown d) :: shownMembers ms

end

def asText : Draft → String
  | .text s => s
  | d => d.shown

end Draft

/-! ## What cannot be written -/

mutual

/-- Whether every whole number in it is short enough to be written. -/
def Key.isSpellable : Key → Bool
  | .int n => !isLong n
  | .tuple items => Key.areSpellable items
  | _ => true

def Key.areSpellable : List Key → Bool
  | [] => true
  | k :: ks => Key.isSpellable k && Key.areSpellable ks

end

namespace Draft

mutual

/-- Whether every whole number in it is short enough to be written. -/
def isSpellable : Draft → Bool
  | .int n => !isLong n
  | .list items => areSpellable items
  | .tuple items => areSpellable items
  | .object members => areMembersSpellable members
  | _ => true

def areSpellable : List Draft → Bool
  | [] => true
  | d :: ds => isSpellable d && areSpellable ds

def areMembersSpellable : List (Key × Draft) → Bool
  | [] => true
  | (k, d) :: ms => k.isSpellable && (isSpellable d && areMembersSpellable ms)

end

end Draft

/-- What keeps a value from being written out. -/
inductive Unwritable where
  /-- A whole number has too many digits. -/
  | long
  /-- Too much stands one inside the other. -/
  | deep
  deriving DecidableEq, Repr

mutual

/-- What is met first that cannot be written, with room for so many tuples one inside the
other. -/
def Key.unwritable? (room : Nat) : Key → Option Unwritable
  | .int n => if isLong n then some .long else none
  | .tuple items => if room = 0 then some .deep else Key.unwritableItem? (room - 1) items
  | _ => none

def Key.unwritableItem? (room : Nat) : List Key → Option Unwritable
  | [] => none
  | k :: ks => (Key.unwritable? room k).or (Key.unwritableItem? room ks)

end

namespace Draft

mutual

/-- What is met first that cannot be written, with room for so many lists and objects one
inside the other. -/
def unwritable? (room : Nat) : Draft → Option Unwritable
  | .int n => if isLong n then some .long else none
  | .list items => if room = 0 then some .deep else unwritableItem? (room - 1) items
  | .tuple items => if room = 0 then some .deep else unwritableItem? (room - 1) items
  | .object members => if room = 0 then some .deep else unwritableMember? (room - 1) members
  | _ => none

def unwritableItem? (room : Nat) : List Draft → Option Unwritable
  | [] => none
  | d :: ds => (unwritable? room d).or (unwritableItem? room ds)

def unwritableMember? (room : Nat) : List (Key × Draft) → Option Unwritable
  | [] => none
  | (k, d) :: ms => (k.unwritable? room).or ((unwritable? room d).or (unwritableMember? room ms))

end

end Draft

namespace Value

def isSpellable (v : Value) : Bool := (Draft.ofValue v).isSpellable

/-- What in a value cannot be written, if there is anything. -/
def unwritable? (v : Value) : Option Unwritable := (Draft.ofValue v).unwritable? maxNesting

def shown (v : Value) : String := (Draft.ofValue v).shown

/-- The text of a value: a text itself, anything else as `shown`. -/
def asText (v : Value) : String := (Draft.ofValue v).asText

end Value

end DocumentStore
