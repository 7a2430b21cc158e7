/-
  DocumentStore.Log.Template — messages with places for values.

  A directive runs from a percent sign to a letter that says how a value is written: `s`,
  `r` and `a` as text, `d`, `i`, `u`, `o`, `x` and `X` as a whole number, `e`, `f`, `g` and
  their capitals as a floating-point number, `c` as a character. Between them may stand a
  name in parentheses, the flags `-`, `+`, space, `#` and `0`, a width, a point with a
  precision, and one of the letters `h`, `l` and `L`, which say nothing. Two percent signs
  are one.

  Values are taken in order, all of them; or there is one object, from which they are taken
  by name.
-/

import DocumentStore.Decimal.Fixed
import DocumentStore.Failure

namespace DocumentStore.Log

open DocumentStore.Decimal

/-! ## Directives -/

inductive Amount where
  | given (n : Nat)
  /-- The next value says it. -/
  | fromValue
  deriving DecidableEq, Repr

structure Directive where
  name : Option (List Char)
  flags : List Char
  width : Option Amount
  precision : Option Amount
  deriving DecidableEq, Repr

def Directive.blank : Directive := ⟨none, [], none, none⟩

inductive Piece where
  | plain (c : Char)
  | directive (d : Directive) (letter : Char) (place : Nat)
  /-- A directive that the template ends in. -/
  | unfinished (d : Directive)
  /-- A name that the template ends in. -/
  | unclosed
  deriving Repr

/-- Where in a directive the reader stands. -/
inductive Stage where
  | outside
  | opened
  | name (open_ : Nat)
  | flags
  | width
  | afterWidth
  | precision
  | digits
  | afterPrecision
  | letter
  deriving DecidableEq, Repr

def digitOf? (c : Char) : Option Nat := if c.isDigit then some (c.toNat - 48) else none

def Amount.extend (a : Option Amount) (digit : Nat) : Option Amount :=
  match a with
  | some (.given n) => some (.given (n * 10 + digit))
  | _ => some (.given digit)

/-- What a character does in a directive: it is part of it, or it is its letter. -/
inductive Reading where
  | more (d : Directive) (stage : Stage)
  | finished (d : Directive) (letter : Char)

def readLength (d : Directive) (c : Char) : Reading :=
  if c = 'h' ∨ c = 'l' ∨ c = 'L' then .more d .letter else .finished d c

def readPrecision (d : Directive) (c : Char) : Reading :=
  match digitOf? c with
  | some n => .more { d with precision := Amount.extend d.precision n } .digits
  | none => readLength d c

def readPoint (d : Directive) (c : Char) : Reading :=
  if c = '.' then .more { d with precision := some (.given 0) } .precision else readLength d c

def readWidth (d : Directive) (c : Char) : Reading :=
  match digitOf? c with
  | some n => .more { d with width := Amount.extend d.width n } .width
  | none => readPoint d c

def readFlags (d : Directive) (c : Char) : Reading :=
  if "-+ #0".toList.contains c then .more { d with flags := c :: d.flags } .flags
  else if c = '*' then .more { d with width := some .fromValue } .afterWidth
  else readWidth d c

def readName (d : Directive) (depth : Nat) (c : Char) : Reading :=
  let name := d.name.getD []
  if c = ')' ∧ depth = 1 then .more { d with name := some name.reverse } .flags
  else
    let depth := if c = '(' then depth + 1 else if c = ')' then depth - 1 else depth
    .more { d with name := some (c :: name) } (.name depth)

def readDirective (d : Directive) (stage : Stage) (c : Char) : Reading :=
  match stage with
  | .outside => .finished d c
  | .opened => if c = '(' then .more { d with name := some [] } (.name 1) else readFlags d c
  | .name depth => readName d depth c
  | .flags => readFlags d c
  | .width => readWidth d c
  | .afterWidth => readPoint d c
  | .precision =>
    if c = '*' then .more { d with precision := some .fromValue } .afterPrecision
    else readPrecision d c
  | .digits => readPrecision d c
  | .afterPrecision => readLength d c
  | .letter => .finished d c

def piecesFrom (d : Directive) (stage : Stage) (place : Nat) : List Char → List Piece
  | [] =>
    match stage with
    | .outside => []
    | .name _ => [.unclosed]
    | _ => [.unfinished d]
  | c :: cs =>
    if stage = .outside then
      if c = '%' then piecesFrom .blank .opened (place + 1) cs
      else .plain c :: piecesFrom d .outside (place + 1) cs
    else if stage = .opened ∧ c = '%' then .plain c :: piecesFrom d .outside (place + 1) cs
    else
      match readDirective d stage c with
      | .more d stage => piecesFrom d stage (place + 1) cs
      | .finished d letter =>
        .directive d letter place :: piecesFrom .blank .outside (place + 1) cs

def pieces (template : List Char) : List Piece := piecesFrom .blank .outside 0 template

/-! ## Values -/

/-- What the values of a template are taken from. -/
structure Supply where
  queue : List Value
  names : Option Record

/-- The values in order; a single object that is not empty gives them by name as well. -/
def Supply.of (values : List Value) : Supply :=
  match values with
  | [.object (m :: ms)] => ⟨values, some (m :: ms)⟩
  | values => ⟨values, none⟩

def Supply.next (s : Supply) : Except Failure (Value × Supply) :=
  match s.queue with
  | v :: queue => .ok (v, { s with queue })
  | [] => .error (.template .tooFew)

def Supply.named (s : Supply) (name : String) : Except Failure Value :=
  match s.names with
  | none => .error (.template .noMapping)
  | some members =>
    match members.get? name with
    | some v => .ok v
    | none => .error (.template (.noName name))

/-- Whether values are left over that should have been used. -/
def Supply.isLeftOver (s : Supply) : Bool := s.names.isNone && !s.queue.isEmpty

/-! ## Writing -/

/-- A directive with its width and precision known. -/
structure Layout where
  left : Bool
  sign : List Char
  alternate : Bool
  zeros : Bool
  width : Nat
  precision : Option Nat

/-- The text filled up to the width, blanks going to the right of it if it is to be left;
`lead` is its sign and what belongs to it, which zeros follow. -/
def Layout.fill (l : Layout) (zeros : Bool) (lead body : List Char) : List Char :=
  let missing := l.width - lead.length - body.length
  if l.left then lead ++ body ++ List.replicate missing ' '
  else if zeros then lead ++ List.replicate missing '0' ++ body
  else List.replicate missing ' ' ++ lead ++ body

def Layout.fillText (l : Layout) (cs : List Char) : List Char :=
  l.fill false [] (match l.precision with | some n => cs.take n | none => cs)

def Layout.signOf (l : Layout) (negative : Bool) : List Char := if negative then ['-'] else l.sign

/-- The most places that a whole number is filled up to. -/
def maxPlaces : Nat := 2147483644

/-- The layout, if a whole number can be filled up to its places. -/
def Layout.forWhole (l : Layout) : Except Failure Layout :=
  if maxPlaces < l.precision.getD 0 then .error (.template .places) else .ok l

def Layout.fillWhole (l : Layout) (base : Nat) (mark : List Char) (capital : Bool) (n : Int) :
    List Char :=
  let ds := Nat.toDigits base n.natAbs
  let ds := List.replicate (l.precision.getD 1 - ds.length) '0' ++ ds
  let lead := l.signOf (n < 0) ++ if l.alternate then mark else []
  let upper := fun cs : List Char => if capital then cs.map Char.toUpper else cs
  l.fill l.zeros (upper lead) (upper ds)

def floatForm (l : Layout) (letter : Char) (x : Fixed.Magnitude) : List Char :=
  let places := l.precision.getD 6
  match letter.toLower with
  | 'e' => Fixed.scientific l.alternate places x
  | 'f' => Fixed.positional l.alternate places x
  | _ => Fixed.general l.alternate (max places 1) x

def Layout.fillFloat (l : Layout) (letter : Char) (x : Binary64) : List Char :=
  let (negative, body) := match x with
    | .nan => (false, "nan".toList)
    | .infinite negative => (negative, "inf".toList)
    | .finite negative m e => (negative, floatForm l letter (Fixed.magnitude m e))
  l.fill l.zeros (l.signOf negative) (if letter.isUpper then body.map Char.toUpper else body)

/-- The number that a value is, truth values being one and zero. -/
def wholeOf (letter : Char) (v : Value) : Except Failure Int :=
  match v.quantity? with
  | some (.int n) => .ok n
  | some (.float x) =>
    match x.truncate? with
    | some n => .ok n
    | none => .error (.template (if x = .nan then .notANumber else .infinite))
  | none => .error (.template (.notReal letter (Draft.ofValue v).kind))

/-- A number of another base has to be whole. -/
def strictWholeOf (letter : Char) (v : Value) : Except Failure Int :=
  match v.quantity? with
  | some (.int n) => .ok n
  | _ => .error (.template (.notWhole letter (Draft.ofValue v).kind))

def floatOf (v : Value) : Except Failure Binary64 :=
  match v.quantity? with
  | some (.float x) => .ok x
  | some (.int n) =>
    match Binary64.ofRatio (n < 0) n.natAbs 1 with
    | .infinite _ => .error (.template .tooLarge)
    | x => .ok x
  | none => .error (.template (.notFloat (Draft.ofValue v).kind))

def charOf (v : Value) : Except Failure Char :=
  match v with
  | .text s =>
    match s.toList with
    | [c] => .ok c
    | _ => .error (.template .notChar)
  | v =>
    match v.quantity? with
    | some (.int n) =>
      if 0 ≤ n ∧ n < 0x110000 then .ok (Text.charOfCode n.toNat) else .error (.template .charRange)
    | _ => .error (.template .notChar)

/-- A text with everything beyond ASCII escaped. -/
def asciiOnly (text : String) : List Char :=
  text.toList.flatMap fun c => if c.toNat < 128 then [c] else Text.escapedChar c

/-- A whole number to a base, its mark standing before it in the alternate form. -/
def writeWhole (l : Layout) (base : Nat) (mark : List Char) (capital : Bool) (n : Int) :
    Except Failure (List Char) :=
  if base = 10 ∧ isLong n then .error (.value .tooLong)
  else l.forWhole.map fun l => l.fillWhole base mark capital n

/-- A value as a directive with the given letter writes it. -/
def write (l : Layout) (letter : Char) (place : Nat) (v : Value) : Except Failure (List Char) :=
  match letter with
  | 's' => v.spelled.map fun text => l.fillText text.toList
  | 'r' => v.showing.map fun text => l.fillText text.toList
  | 'a' => v.showing.map fun text => l.fillText (asciiOnly text)
  | 'c' => (charOf v).map fun c => l.fill false [] [c]
  | 'o' => (strictWholeOf letter v).bind (writeWhole l 8 ['0', 'o'] false)
  | 'x' => (strictWholeOf letter v).bind (writeWhole l 16 ['0', 'x'] false)
  | 'X' => (strictWholeOf letter v).bind (writeWhole l 16 ['0', 'x'] true)
  | _ =>
    if letter = 'd' ∨ letter = 'i' ∨ letter = 'u' then
      (wholeOf letter v).bind (writeWhole l 10 [] false)
    else if "eEfFgG".toList.contains letter then (floatOf v).map (l.fillFloat letter)
    else .error (.template (.unknownLetter letter place))

/-- The range of a width or a precision, and what is said of one that is out of it, written in the
template or said by a value. -/
structure Limit where
  bits : Nat
  written : TemplateFault
  said : TemplateFault

def widthLimit : Limit := ⟨63, .widthDigits, .widthRange⟩

def precisionLimit : Limit := ⟨31, .precisionDigits, .precisionRange⟩

def Limit.check (limit : Limit) (fault : TemplateFault) (n : Int) : Except Failure Int :=
  if -(twoTo limit.bits : Int) ≤ n ∧ n < twoTo limit.bits then .ok n else .error (.template fault)

/-- A width or precision; the next value may say it, negative if blanks go to the right. -/
def amount (limit : Limit) (a : Option Amount) (s : Supply) :
    Except Failure (Option Int × Supply) :=
  match a with
  | none => .ok (none, s)
  | some (.given n) => (limit.check limit.written n).map fun n => (some n, s)
  | some .fromValue =>
    match s.next with
    | .error f => .error f
    | .ok (.int n, s) => (limit.check limit.said n).map fun n => (some n, s)
    | .ok (.bool b, s) => .ok (some (if b then 1 else 0), s)
    | .ok _ => .error (.template .amountKind)

def layout (d : Directive) (width precision : Option Int) : Layout where
  left := d.flags.contains '-' || (width.getD 0 < 0)
  sign := if d.flags.contains '+' then ['+'] else if d.flags.contains ' ' then [' '] else []
  alternate := d.flags.contains '#'
  zeros := d.flags.contains '0'
  width := (width.getD 0).natAbs % twoTo widthLimit.bits
  precision := precision.map Int.toNat

/-- The greatest width that there is room for. -/
def maxWidth : Nat := 100000000000

/-- The layout of a directive, and the values left for it. -/
def prepare (d : Directive) (s : Supply) : Except Failure (Layout × Supply) := do
  let own ← match d.name with
    | some name => some <$> s.named (String.ofList name)
    | none => pure none
  let s := if own.isSome then { s with queue := own.toList } else s
  let (width, s) ← amount widthLimit d.width s
  let (precision, s) ← amount precisionLimit d.precision s
  pure (layout d width precision, s)

def fillDirective (d : Directive) (letter : Char) (place : Nat) (s : Supply) :
    Except Failure (List Char × Supply) := do
  let (l, s) ← prepare d s
  let (v, s) ← s.next
  let tooWide := maxWidth < l.width
  let cs ← write (if tooWide then { l with width := 0 } else l) letter place v
  if tooWide then .error (.template .memory) else pure (cs, s)

def fillPieces (s : Supply) : List Piece → Except Failure (List Char)
  | [] => if s.isLeftOver then .error (.template .tooMany) else .ok []
  | .plain c :: rest => (fillPieces s rest).map (c :: ·)
  | .unclosed :: _ => .error (.template (if s.names.isSome then .incompleteName else .noMapping))
  | .unfinished d :: _ =>
    match prepare d s with
    | .error f => .error f
    | .ok _ => .error (.template .incomplete)
  | .directive d letter place :: rest =>
    match fillDirective d letter place s with
    | .error f => .error f
    | .ok (cs, s) => (fillPieces s rest).map (cs ++ ·)

/-- The message of a template; without values it is the template as it stands. -/
def message (template : String) (values : List Value) : Except Failure String :=
  if values.isEmpty then .ok template
  else (fillPieces (Supply.of values) (pieces template.toList)).map String.ofList

end DocumentStore.Log
