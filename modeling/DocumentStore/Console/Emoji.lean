/-
  DocumentStore.Console.Emoji — emoji written by their names.

  A name stands between two colons and holds no blank; it may be in any letter case. `-emoji` or
  `-text` behind it asks for the coloured or for the plain picture. A name that is no emoji's
  stays as it is, with both of its colons.
-/

import DocumentStore.Console.EmojiTable
import DocumentStore.Text.Blank
import DocumentStore.Text.Case
import DocumentStore.Text.Split

namespace DocumentStore.Console

/-- The mark behind a picture that asks for it in colours. -/
def colourMark : Char := Char.ofNat 0xfe0f

/-- The mark behind a picture that asks for it without colours. -/
def plainMark : Char := Char.ofNat 0xfe0e

/-- The word behind a name in a list of names and words. -/
def wordBehind? (name : List Char) : List (List Char) → Option (List Char)
  | key :: word :: rest => if key = name then some word else wordBehind? name rest
  | _ => none

/-- The emoji of a name in small letters. -/
def emojiNamed? (name : List Char) : Option (List Char) :=
  emojiLines.toList.findSome? fun line => wordBehind? name (Text.splitAt ' ' line.toList)

/-- An emoji's name between colons, with the mark that it asks for. -/
structure ShortCode where
  name : List Char
  mark : List Char
  /-- How many characters it takes behind its first colon. -/
  size : Nat
  deriving DecidableEq, Repr

/-- A short code behind its first colon, `name` of it being read already, last character first. -/
def ShortCode.readFrom? (name : List Char) : List Char → Option ShortCode
  | [] => none
  | c :: cs =>
    let ended := fun (tail : String) (mark : List Char) =>
      if tail.toList.isPrefixOf (c :: cs) then
        some (ShortCode.mk name.reverse mark (name.length + tail.length))
      else none
    match ended "-emoji:" [colourMark] <|> ended "-text:" [plainMark] <|> ended ":" [] with
    | some code => some code
    | none => if Text.isBlank c then none else readFrom? (c :: name) cs

/-- The picture that a short code asks for, if there is one of its name. -/
def ShortCode.picture? (code : ShortCode) : Option (List Char) :=
  (emojiNamed? (Text.lowerChars code.name)).map (· ++ code.mark)

/-- The text with pictures in place of short codes, after `skip` characters that are left out and
`kept` ones that stay as they are. -/
def drawnFrom (skip kept : Nat) : List Char → List Char
  | [] => []
  | c :: cs =>
    if skip ≠ 0 then drawnFrom (skip - 1) kept cs
    else if kept ≠ 0 then c :: drawnFrom 0 (kept - 1) cs
    else
      match if c = ':' then ShortCode.readFrom? [] cs else none with
      | none => c :: drawnFrom 0 0 cs
      | some code =>
        match code.picture? with
        | some picture => picture ++ drawnFrom code.size 0 cs
        | none => c :: drawnFrom 0 code.size cs

/-- The text with pictures in place of short codes. -/
def drawn (cs : List Char) : List Char := drawnFrom 0 0 cs

end DocumentStore.Console
