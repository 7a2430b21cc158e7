/-
  DocumentStore.Console.Literal — what may stand in the brackets of an action.

  The arguments of an action are literals: numbers, texts, octets, a few constants, tuples, sets
  and tables of literals. A sign may stand in front of a number, and an imaginary number be added
  to a real one. Only whether a text is a literal matters here, so of a literal only its kind is
  kept. What a set holds, and the keys of a table, never change.
-/

import DocumentStore.Decimal.Numeral
import DocumentStore.Text.Hexadecimal
import DocumentStore.Text.Surrogate
import DocumentStore.Text.Word

namespace DocumentStore.Console.Literal

open DocumentStore.Decimal

/-! ## Tokens -/

inductive Token where
  | whole
  | real
  | imaginary
  | text
  | octets
  | constant
  /-- The word that makes an empty set behind which brackets stand. -/
  | set
  | mark (c : Char)
  deriving DecidableEq, Repr

def isBaseDigit (base : Nat) (c : Char) : Bool := (Text.hexValue? c).any (· < base)

/-- Digits of a base, an underscore allowed in front of each: whether there is one, and the rest. -/
def skipBaseDigits (base : Nat) (found : Bool) : List Char → Bool × List Char
  | [] => (found, [])
  | '_' :: c :: cs =>
    if isBaseDigit base c then skipBaseDigits base true cs else (found, '_' :: c :: cs)
  | c :: cs => if isBaseDigit base c then skipBaseDigits base true cs else (found, c :: cs)

/-- The text behind a number whose base is marked, behind its zero. -/
def skipMarked? (cs : List Char) : Option (List Char) :=
  let skip := fun (base : Nat) (rest : List Char) =>
    match skipBaseDigits base false rest with
    | (true, rest) => some rest
    | (false, _) => none
  match cs with
  | c :: rest =>
    if c = 'x' ∨ c = 'X' then skip 16 rest
    else if c = 'o' ∨ c = 'O' then skip 8 rest
    else if c = 'b' ∨ c = 'B' then skip 2 rest
    else none
  | [] => none

/-- The text behind an exponent, if one is there; a broken one is none. -/
def skipExponent (cs : List Char) : List Char :=
  match cs with
  | c :: rest =>
    if c = 'e' ∨ c = 'E' then
      match takeDigits false (takeSign rest).2 with
      | ([], _) => cs
      | (_, rest) => rest
    else cs
  | [] => []

/-- A decimal number and the text behind it. A whole number other than zero does not start with
a zero, and has not too many digits. -/
def readDecimal? (cs : List Char) : Option (Token × List Char) :=
  let (whole, rest) := takeDigits false cs
  let pointed := rest.head? == some '.'
  let behind := skipExponent (if pointed then (takeDigits false (rest.drop 1)).2 else rest)
  match behind with
  | c :: after => if c = 'j' ∨ c = 'J' then some (.imaginary, after) else plain whole rest behind
  | [] => plain whole rest behind
where
  plain (whole : List Nat) (rest behind : List Char) : Option (Token × List Char) :=
    if rest.length ≠ behind.length then some (.real, behind)
    else if whole.head? = some 0 ∧ whole.any (· ≠ 0) ∨ maxDigits < whole.length then none
    else some (.whole, behind)

/-- A number and the text behind it; no letter follows at once. -/
def readNumber? (cs : List Char) : Option (Token × List Char) :=
  let found := match cs with
    | '0' :: rest => ((skipMarked? rest).map fun rest => (Token.whole, rest)) <|> readDecimal? cs
    | cs => readDecimal? cs
  found.filter fun (_, rest) => !rest.head?.any Text.isWordChar

/-- How a text is written: with what quote, with three of them or one, as octets, raw. -/
structure Quoting where
  quote : Char
  triple : Bool
  octets : Bool
  raw : Bool

/-- What a reader of a text is at. -/
inductive TextState where
  | plain
  | escape
  /-- A character is written by its number: the digits owed, its value so far. -/
  | number (owed value : Nat)

/-- The state behind an escaped character, if it may be escaped. -/
def Quoting.escaped? (q : Quoting) (c : Char) : Option TextState :=
  if q.raw then some .plain
  else if c = 'x' then some (.number 2 0)
  else if q.octets then some .plain
  else if c = 'u' then some (.number 4 0)
  else if c = 'U' then some (.number 8 0)
  else if c = 'N' then none
  else some .plain

/-- The text behind the closing quote, if there is one. -/
def Quoting.skip? (q : Quoting) (state : TextState) : List Char → Option (List Char)
  | [] => none
  | c :: cs =>
    if q.octets ∧ 128 ≤ c.toNat then none
    else
      match state with
      | .number owed value =>
        match Text.hexValue? c with
        | none => none
        | some d =>
          let n := value * 16 + d
          let next := if owed ≤ 1 then .plain else .number (owed - 1) n
          if 0x110000 ≤ n then none else q.skip? next cs
      | .escape =>
        match q.escaped? c with
        | none => none
        | some state => q.skip? state cs
      | .plain =>
        if c = '\\' then q.skip? .escape cs
        else if c = q.quote ∧ !q.triple then some cs
        else if c = q.quote ∧ [c, c].isPrefixOf cs then some (cs.drop 2)
        else if c = '\n' ∧ !q.triple then none
        else q.skip? .plain cs

/-- A text behind what may stand in front of its quote. -/
def readText? (lead : List Char) (quote : Char) (cs : List Char) : Option (Token × List Char) :=
  let lead := lead.map Char.toLower
  if [[], ['r'], ['u'], ['b'], ['b', 'r'], ['r', 'b']].contains lead then
    let octets := lead.contains 'b'
    let triple := [quote, quote].isPrefixOf cs
    let q : Quoting := ⟨quote, triple, octets, lead.contains 'r'⟩
    (q.skip? .plain (if triple then cs.drop 2 else cs)).map fun rest =>
      (if octets then .octets else .text, rest)
  else none

def isQuote (c : Char) : Bool := c == '"' || c.toNat == 39

/-- A word, or a text with something in front of its quote. -/
def readWord? (cs : List Char) : Option (Token × List Char) :=
  let word := cs.takeWhile Text.isWordChar
  let rest := cs.dropWhile Text.isWordChar
  match rest with
  | c :: behind => if isQuote c then readText? word c behind else named? word rest
  | [] => named? word rest
where
  named? (word rest : List Char) : Option (Token × List Char) :=
    if ["None", "True", "False"].contains (String.ofList word) then some (.constant, rest)
    else if word = "set".toList then some (.set, rest)
    else none

def isMark (c : Char) : Bool := ['(', ')', '{', '}', ',', ':', '+', '-'].contains c

def readToken? (cs : List Char) : Option (Token × List Char) :=
  match cs with
  | '.' :: '.' :: '.' :: rest => some (.constant, rest)
  | '.' :: c :: _ => if Text.isAsciiDigit c then readNumber? cs else none
  | c :: rest =>
    if isMark c then some (.mark c, rest)
    else if isQuote c then readText? [] c rest
    else if Text.isAsciiDigit c then readNumber? cs
    else readWord? cs
  | [] => none

def isGap (c : Char) : Bool := c == ' ' || c == '\t' || c == '\x0c'

/-- The most brackets that are open at once. -/
def mostOpen : Nat := 200

/-- What is between tokens: a text, if it goes on, behind gaps and comments. A line ends within
brackets only, or where nothing but comments is left. `inside` says that brackets are open, and
`begun` that a token came. -/
def skipGaps? (inside begun comment ended : Bool) : List Char → Option (List Char)
  | [] => some []
  | c :: cs =>
    if c = '\n' then skipGaps? inside begun false (ended || (begun && !inside)) cs
    else if comment || isGap c then skipGaps? inside begun comment ended cs
    else if c = '#' then skipGaps? inside begun true ended cs
    else if ended then none
    else
      match c, cs with
      | '\\', '\n' :: rest => skipGaps? inside begun false ended rest
      | _, _ => some (c :: cs)

/-- The tokens of a text, `opened` brackets being open; each takes a character at least. -/
def tokensFrom? : (steps opened : Nat) → (begun : Bool) → List Char → Option (List Token)
  | 0, _, _, _ => none
  | steps + 1, opened, begun, cs =>
    match skipGaps? (opened != 0) begun false false cs with
    | none => none
    | some [] => some []
    | some cs =>
      match readToken? cs with
      | none => none
      | some (token, rest) =>
        let opened :=
          if token = .mark '(' ∨ token = .mark '{' then opened + 1
          else if token = .mark ')' ∨ token = .mark '}' then opened - 1
          else opened
        if mostOpen < opened then none
        else (tokensFrom? steps opened true rest).map (token :: ·)

def tokens? (cs : List Char) : Option (List Token) := tokensFrom? (cs.length + 1) 0 false cs

/-! ## Literals -/

inductive Kind where
  | real
  | signedReal
  | imaginary
  /-- Any other literal that never changes. -/
  | fixed
  | changeable
  deriving DecidableEq, Repr

/-- The kind of a number with a sign, if it may have one. -/
def Kind.signed? : Kind → Option Kind
  | .real => some .signedReal
  | .imaginary => some .fixed
  | _ => none

def isSign (t : Token) : Bool := t == .mark '+' || t == .mark '-'

/-- Texts in a row are one text, and so are octets. -/
def skipRow (t : Token) (ts : List Token) : List Token := ts.dropWhile (· == t)

/-- Whether the tokens go on with a closing bracket or not at all. -/
def isOver (ts : List Token) : Bool :=
  match ts with
  | [] => true
  | t :: _ => t == .mark ')' || t == .mark '}'

def tupleKind (kinds : List Kind) : Kind :=
  if kinds.contains .changeable then .changeable else .fixed

mutual

/-- A literal that is no sum and has no sign, and the tokens behind it. -/
def readAtom? : (steps : Nat) → List Token → Option (Kind × List Token)
  | 0, _ => none
  | steps + 1, ts =>
    match ts with
    | .whole :: rest => some (.real, rest)
    | .real :: rest => some (.real, rest)
    | .imaginary :: rest => some (.imaginary, rest)
    | .constant :: rest => some (.fixed, rest)
    | .text :: rest => some (.fixed, skipRow .text rest)
    | .octets :: rest => some (.fixed, skipRow .octets rest)
    | .set :: .mark '(' :: .mark ')' :: rest => some (.changeable, rest)
    | .mark '(' :: .mark ')' :: rest => some (.fixed, rest)
    | .mark '(' :: rest =>
      match readItems? steps rest with
      | some ([kind], false, .mark ')' :: rest) => some (kind, rest)
      | some (kinds, _, .mark ')' :: rest) => some (tupleKind kinds, rest)
      | _ => none
    | .mark '{' :: .mark '}' :: rest => some (.changeable, rest)
    | .mark '{' :: rest =>
      match readItem? steps rest with
      | some (kind, .mark ':' :: _) =>
        if kind = .changeable then none
        else (readPairs? steps rest).map fun rest => (.changeable, rest)
      | some _ =>
        match readItems? steps rest with
        | some (kinds, _, .mark '}' :: rest) =>
          if kinds.contains .changeable then none else some (.changeable, rest)
        | _ => none
      | none => none
    | _ => none

/-- A literal and the tokens behind it. -/
def readItem? : (steps : Nat) → List Token → Option (Kind × List Token)
  | 0, _ => none
  | steps + 1, ts =>
    let first := match ts with
      | t :: rest =>
        if isSign t then
          match readAtom? steps rest with
          | some (kind, rest) => kind.signed?.map fun kind => (kind, rest)
          | none => none
        else readAtom? steps ts
      | [] => none
    match first with
    | some (kind, t :: rest) =>
      if isSign t then
        match readAtom? steps rest with
        | some (.imaginary, rest) =>
          if kind = .real ∨ kind = .signedReal then some (.fixed, rest) else none
        | _ => none
      else first
    | _ => first

/-- Literals with commas between them, whether a comma came, and the tokens behind them. -/
def readItems? : (steps : Nat) → List Token → Option (List Kind × Bool × List Token)
  | 0, _ => none
  | steps + 1, ts =>
    match readItem? steps ts with
    | none => none
    | some (kind, .mark ',' :: rest) =>
      if isOver rest then some ([kind], true, rest)
      else (readItems? steps rest).map fun (kinds, _, rest) => (kind :: kinds, true, rest)
    | some (kind, rest) => some ([kind], false, rest)

/-- The tokens behind the keys and values of a table and its closing bracket. -/
def readPairs? : (steps : Nat) → List Token → Option (List Token)
  | 0, _ => none
  | steps + 1, ts =>
    match readItem? steps ts with
    | some (key, .mark ':' :: rest) =>
      if key = .changeable then none
      else
        match readItem? steps rest with
        | some (_, .mark '}' :: rest) => some rest
        | some (_, .mark ',' :: .mark '}' :: rest) => some rest
        | some (_, .mark ',' :: rest) => readPairs? steps rest
        | _ => none
    | _ => none

end

/-- Whether the text is a literal, or several with commas between them. -/
def isLiteral (cs : List Char) : Bool :=
  if cs.any fun c => c.toNat == 0 || Text.isLone c then false
  else
    match tokens? (Text.plainLines cs) with
    | none => false
    | some ts =>
      match readItems? (3 * ts.length + 3) ts with
      | some (_, _, []) => true
      | _ => false

end DocumentStore.Console.Literal
