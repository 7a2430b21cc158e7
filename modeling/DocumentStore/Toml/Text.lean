/-
  DocumentStore.Toml.Text — blanks, comments and texts in TOML.

  A literal text stands between single quotes and means what it says. A basic text stands
  between double quotes and has escapes. Either may stand between three quotes; then it may
  run over lines, a line feed at its start does not count, and it may end with up to two
  quotes of its own. There a backslash at the end of a line swallows blanks and line feeds
  up to the next character.

  No text and no comment holds a control character other than a tab.
-/

import DocumentStore.Text.Hexadecimal
import DocumentStore.Toml.Fault

namespace DocumentStore.Toml

def isBlank (c : Char) : Bool := c == ' ' || c == '\t'

def isFiller (c : Char) : Bool := isBlank c || c == '\n'

def isControl (c : Char) : Bool := c.toNat < 32 || c.toNat == 127

def skipBlanks (cs : List Char) : List Char := cs.dropWhile isBlank

/-- The text behind a comment, if there is one: its line feed or nothing. -/
def skipCommentText : List Char → Except Fault (List Char)
  | [] => .ok []
  | c :: cs =>
    if c = '\n' then .ok (c :: cs)
    else if isControl c && c != '\t' then flawed (.strayChar c) (c :: cs)
    else skipCommentText cs

def skipComment (cs : List Char) : Except Fault (List Char) :=
  match cs with
  | '#' :: rest => skipCommentText rest
  | cs => .ok cs

/-- The text behind blanks, line feeds and comments; `comment` says that one is under way. -/
def skipFiller (comment : Bool) : List Char → Except Fault (List Char)
  | [] => .ok []
  | c :: cs =>
    if comment then
      if c = '\n' then skipFiller false cs
      else if isControl c && c != '\t' then flawed (.strayChar c) (c :: cs)
      else skipFiller true cs
    else if isFiller c then skipFiller false cs
    else if c = '#' then skipFiller true cs
    else .ok (c :: cs)

/-! ## Literal texts -/

/-- The characters before a mark and behind it. -/
def cutAt (mark : List Char) : List Char → Option (List Char × List Char)
  | [] => none
  | c :: cs =>
    if mark.isPrefixOf (c :: cs) then some ([], (c :: cs).drop mark.length)
    else (cutAt mark cs).map fun (before, after) => (c :: before, after)

def singleQuote : Char := Char.ofNat 39

/-- A literal text behind its opening mark; `lines` says that it may run over lines. -/
def readLiteral (mark : List Char) (lines : Bool) (cs : List Char) : Reading (List Char) :=
  match cutAt mark cs with
  | none => flawed (.unclosed (String.ofList mark)) []
  | some (before, after) =>
    let isLegal := fun c : Char => !isControl c || c == '\t' || (lines && c == '\n')
    match before.dropWhile isLegal with
    | [] => .ok (before, after)
    | c :: _ => flawed (.strayChar c) (cs.dropWhile isLegal)

/-! ## Basic texts -/

/-- What a reader of a basic text is at. -/
inductive TextState where
  | plain
  /-- A backslash came. -/
  | escape
  /-- A backslash and a blank came; the line has to end. -/
  | lineEnd
  /-- The line ended behind a backslash. -/
  | joined
  /-- A character is written by its number: where its digits started, those owed, its value. -/
  | number (start : Nat) (owed : Nat) (value : Nat)

def escapeLetter? (c : Char) : Option Char :=
  if c = 'b' then some '\x08'
  else if c = 't' then some '\t'
  else if c = 'n' then some '\n'
  else if c = 'f' then some '\x0c'
  else if c = 'r' then some '\r'
  else if c = '"' ∨ c = '\\' then some c
  else none

/-- What a character gives in a state: a character or none, and the next state. -/
def textStep (lines : Bool) (state : TextState) (c : Char) (cs : List Char) :
    Except Fault (List Char × TextState) :=
  let plain : Except Fault (List Char × TextState) :=
    if c = '\\' then .ok ([], .escape)
    else if isControl c && c != '\t' && !(lines && c == '\n') then flawed (.illegalChar c) (c :: cs)
    else .ok ([c], .plain)
  match state with
  | .plain => plain
  | .joined => if isFiller c then .ok ([], .joined) else plain
  | .lineEnd =>
    if isBlank c then .ok ([], .lineEnd)
    else if c = '\n' then .ok ([], .joined)
    else flawed .escape (c :: cs)
  | .escape =>
    if lines && isBlank c then .ok ([], .lineEnd)
    else if lines && c == '\n' then .ok ([], .joined)
    else if c = 'u' then .ok ([], .number cs.length 4 0)
    else if c = 'U' then .ok ([], .number cs.length 8 0)
    else
      match escapeLetter? c with
      | some e => .ok ([e], .plain)
      | none => flawed .escape cs
  | .number start owed value =>
    match Text.hexValue? c with
    | none => .error (.malformed .hexadecimal start)
    | some d =>
      let n := value * 16 + d
      if owed ≠ 1 then .ok ([], .number start (owed - 1) n)
      else if n < 0xd800 ∨ 0xdfff < n ∧ n < 0x110000 then .ok ([Char.ofNat n], .plain)
      else flawed .noCharacter cs

/-- Whether a quote in a state is the text's own business and not a plain character. -/
def TextState.closes : TextState → Bool
  | .plain => true
  | .joined => true
  | _ => false

/-- A basic text behind its opening mark; `lines` says that it may run over lines and ends
with three quotes. -/
def readBasic (lines : Bool) (state : TextState) : List Char → Reading (List Char)
  | [] =>
    match state with
    | .number start _ _ => .error (.malformed .hexadecimal start)
    | .escape => flawed .escape []
    | _ => flawed .unclosedText []
  | c :: cs =>
    if c = '"' ∧ state.closes ∧ (!lines || ['"', '"'].isPrefixOf cs) then
      .ok ([], if lines then cs.drop 2 else cs)
    else
      match textStep lines state c cs with
      | .error e => .error e
      | .ok (found, next) => (readBasic lines next cs).map fun (t, r) => (found ++ t, r)

/-! ## Texts of any kind -/

/-- The text with up to two more of the quotes that it ended with. -/
def withQuotes (quote : Char) (text : List Char) (rest : List Char) : List Char × List Char :=
  let extra := ((rest.take 2).takeWhile (· = quote)).length
  (text ++ List.replicate extra quote, rest.drop extra)

def dropLineFeed (cs : List Char) : List Char :=
  match cs with
  | '\n' :: rest => rest
  | cs => cs

/-- A text on one line, if there is one. -/
def readLineText? (cs : List Char) : Option (Reading (List Char)) :=
  match cs with
  | c :: rest =>
    if c = '"' then some (readBasic false .plain rest)
    else if c = singleQuote then some (readLiteral [singleQuote] false rest)
    else none
  | [] => none

/-- A text of any kind, if there is one. -/
def readText? (cs : List Char) : Option (Reading (List Char)) :=
  let basic := ['"', '"', '"']
  let literal := [singleQuote, singleQuote, singleQuote]
  if basic.isPrefixOf cs then
    some ((readBasic true .plain (dropLineFeed (cs.drop 3))).map fun (t, r) => withQuotes '"' t r)
  else if literal.isPrefixOf cs then
    some ((readLiteral literal true (dropLineFeed (cs.drop 3))).map fun (t, r) =>
      withQuotes singleQuote t r)
  else readLineText? cs

/-! ## Keys -/

def isBareKeyChar (c : Char) : Bool := c.isAlphanum || c == '-' || c == '_'

def readKeyPart (cs : List Char) : Reading String :=
  let bare := cs.takeWhile isBareKeyChar
  if !bare.isEmpty then .ok (String.ofList bare, cs.dropWhile isBareKeyChar)
  else
    match readLineText? cs with
    | some r => r.map fun (t, rest) => (String.ofList t, rest)
    | none => flawed .keyPart cs

/-- A key and the blanks behind it; `fuel` bounds the number of its parts. -/
def readKeyParts : (fuel : Nat) → List Char → Reading Key
  | 0, cs => flawed .keyPart cs
  | fuel + 1, cs =>
    match readKeyPart cs with
    | .error e => .error e
    | .ok (part, rest) =>
      match skipBlanks rest with
      | '.' :: rest => (readKeyParts fuel (skipBlanks rest)).map fun (ps, r) => (part :: ps, r)
      | rest => .ok ([part], rest)

/-- A key and the blanks behind it; each part takes a character at least. -/
def readKey (cs : List Char) : Reading Key := readKeyParts (cs.length + 1) cs

end DocumentStore.Toml
