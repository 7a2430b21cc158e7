/-
  DocumentStore.Failure — why an operation fails, and what is said about it.

  A refusal is an expected answer to a caller: it belongs to one of six classes, each with
  a status and a message for when nothing more is known. Everything else that can go wrong
  is a fault in what was configured or handed in, and has no status.

  Causes are data; `message` is the only place where they are put into words.
-/

import DocumentStore.Decimal.Numeral
import DocumentStore.Value.Shown

namespace DocumentStore

/-! ## Classes of refusal -/

inductive RefusalClass where
  | service
  | request
  | authorization
  | credential
  | notFound
  | conflict
  deriving DecidableEq, Repr

namespace RefusalClass

def status : RefusalClass → Nat
  | .service => 400
  | .request => 400
  | .authorization => 401
  | .credential => 403
  | .notFound => 404
  | .conflict => 409

def defaultMessage : RefusalClass → String
  | .service => "Service Error"
  | .request => "Request error"
  | .authorization => "Unauthorized"
  | .credential => "Forbidden"
  | .notFound => "Resource not found"
  | .conflict => "Resource conflict"

/-- The message given, unless there is none or it is empty. -/
def messageOr (k : RefusalClass) : Option String → String
  | none => k.defaultMessage
  | some m => if m.isEmpty then k.defaultMessage else m

end RefusalClass

/-! ## Causes -/

/-- What was asked for is malformed. -/
inductive RequestFault where
  | unspecified
  | whereForm
  | loadForm (directive : String)
  | noRelations
  /-- A fault met while a query ran, in the words of that fault. -/
  | query (words : String)
  | method (name : String)
  | postToEntry
  | noCollection
  | noEntryId
  | bodyShape
  | entryUnder (token : String)
  | entryUnderLeaf
  | noPath
  | mergeLeaf
  | missingFields
  | accountAction (verb action : String)
  | service (name : String)
  deriving DecidableEq, Repr

inductive CredentialFault where
  | denied
  | login
  | noSession
  | token
  deriving DecidableEq, Repr

inductive Missing where
  | collection (name : String)
  | entry (id : String)
  deriving DecidableEq, Repr

/-- What was being read, written or copied when it turned out to be nested too deep. -/
inductive Nesting where
  | jsonList
  | jsonObject
  | toml
  /-- A value to be written as JSON. -/
  | json
  /-- A value to be shown. -/
  | text
  | copy
  deriving DecidableEq, Repr

/-- Why a rules document, or one of its rules, cannot be used. -/
inductive RuleFault where
  | document
  /-- A part that is none, by the name of its collection as it is shown. -/
  | collection (name : String)
  | part (path : String)
  | field (name path : String)
  | action (key path : String)
  /-- Roles among which one is unknown, as they are shown. -/
  | role (roles : String)
  /-- A value that is no rule, as it is shown. -/
  | value (rule : String)
  | expression (text : String)
  | literalArguments (text : String)
  | predicate (name : String)
  | arguments (name text : String)
  | binding (argument text : String)
  | predicateName (name : String)
  deriving DecidableEq, Repr

/-- Why no setup can be had from a file. -/
inductive SetupFault where
  | fileKind (name : String)
  | unreadable (path why : String)
  | invalid (path why : String)
  | noObject (path : String)
  deriving DecidableEq, Repr

/-- A value that cannot be what it should be. -/
inductive ValueFault where
  | draft (fault : DraftFault)
  | operator (word : String)
  | tooManyDigits (count : Nat)
  /-- A whole number has more digits than are written. -/
  | tooLong
  | notWhole (text : String)
  | fewRounds
  | action (name : String)
  | level (name : String)
  | year (n : Int)
  | notATime
  | nullInText
  | setup (fault : SetupFault)
  deriving DecidableEq, Repr

/-- Why a message template cannot be filled with its values. -/
inductive TemplateFault where
  | tooFew
  | tooMany
  | noMapping
  | noName (name : String)
  | incomplete
  | incompleteName
  | unknownLetter (letter : Char) (place : Nat)
  | amountKind
  | widthDigits
  | widthRange
  | precisionDigits
  | precisionRange
  /-- More places than a whole number can be filled up to. -/
  | places
  | memory
  | notReal (letter : Char) (kind : String)
  | notWhole (letter : Char) (kind : String)
  | notFloat (kind : String)
  | notANumber
  | infinite
  | tooLarge
  | notChar
  | charRange
  deriving DecidableEq, Repr

/-- Why a file cannot be read, or a file or folder not be made. -/
inductive PathFault where
  | nothing
  | fileThere
  /-- What should hold it is a file. -/
  | notFolder
  | isFolder
  | longName
  deriving DecidableEq, Repr

inductive Failure where
  | request (why : RequestFault)
  | unauthorized
  | credential (why : CredentialFault)
  | missing (what : Missing)
  | taken (identity : String)
  | rules (why : RuleFault)
  | value (why : ValueFault)
  /-- A stored digest holds characters beyond ASCII. -/
  | digestText
  /-- More rounds than a key may be derived in. -/
  | manyRounds
  /-- A number of rounds that takes more than 64 bits. -/
  | wideRounds
  /-- A value that cannot be a name or an id, by its kind. -/
  | idKind (kind : String)
  /-- A name that is no text where rules are read, by its kind. -/
  | nameKind (kind : String)
  /-- Many records were found where the fields of one are asked for. -/
  | manyRecords
  | noLookup
  | template (why : TemplateFault)
  /-- Style tags that do not fit together. -/
  | markup
  | nesting (what : Nesting)
  /-- A text holds a surrogate that stands alone, so there is no UTF-8 for it. -/
  | unencodable (text : String)
  /-- A time too far away to be counted in seconds. -/
  | timeRange
  /-- A time in a year too far away to be counted. -/
  | yearRange
  /-- What is neither a number nor a text was given as a level, as it is shown. -/
  | levelKind (shown : String)
  /-- An argument was given twice to what takes it once. -/
  | givenTwice (taker argument : String)
  | path (why : PathFault) (path : String)
  /-- A document does not have the shape it must have. -/
  | shape
  deriving DecidableEq, Repr

/-! ## Words -/

def RequestFault.message : RequestFault → String
  | .unspecified => RefusalClass.request.defaultMessage
  | .whereForm => "Could not parse WHERE clause, check your syntax."
  | .loadForm directive => "Invalid load directive: " ++ directive
  | .noRelations => "Relation loading is not available"
  | .query words => RefusalClass.request.messageOr (some words)
  | .method name => "Method " ++ name ++ " is not supported"
  | .postToEntry => "Use PUT to update records"
  | .noCollection => "Please, specify collection name"
  | .noEntryId => "Missing entry ID"
  | .bodyShape => "Request body must be a JSON object"
  | .entryUnder token => "Cannot create entries under " ++ Text.quoted token
  | .entryUnderLeaf => "Cannot create entries under a leaf value"
  | .noPath => "Missing entry path"
  | .mergeLeaf => "Cannot merge into a leaf value"
  | .missingFields => "Missing fields"
  | .accountAction verb action => "Action \"" ++ verb ++ " " ++ action ++ "\" is not supported"
  | .service name => "Service \"" ++ name ++ "\" is not supported"

def CredentialFault.message : CredentialFault → String
  | .denied => RefusalClass.credential.defaultMessage
  | .login => "Login or password don't match"
  | .noSession => "User session does not exist"
  | .token => "Invalid access token"

def Missing.message : Missing → String
  | .collection name => "Collection does not exist: " ++ name
  | .entry id => "Entry does not exist: " ++ id

def RuleFault.message : RuleFault → String
  | .document => "Rules document must be a mapping"
  | .collection name => "Rules for " ++ name ++ " must be a mapping"
  | .part path => "Rules for " ++ path ++ " must be a mapping"
  | .field name path =>
    "Property rules for " ++ Text.quoted name ++ " in " ++ path ++ " must be a mapping"
  | .action key path => "Unknown action " ++ Text.quoted key ++ " in " ++ path
  | .role roles => "Unknown role in " ++ roles
  | .value rule => "Unsupported rule value: " ++ rule
  | .expression text => "Unsupported rule expression: " ++ Text.quoted text
  | .literalArguments text => "Literal rule takes no arguments: " ++ Text.quoted text
  | .predicate name => "Unknown rule predicate: " ++ Text.quoted name
  | .arguments name text => "Unsupported arguments for " ++ name ++ ": " ++ Text.quoted text
  | .binding argument text =>
    "Unknown rule binding " ++ Text.quoted argument ++ " in " ++ Text.quoted text
  | .predicateName name => "Invalid predicate name: " ++ Text.quoted name

def DraftFault.message : DraftFault → String
  | .name kind => "Field names must be strings, got " ++ kind
  | .foreign kind => "Unsupported value type: " ++ kind
  | .notRecord => "Record must be a JSON object"

/-- What is said of a file before the reason, if there is one. -/
def SetupFault.headline : SetupFault → String
  | .fileKind name => "Unsupported spec file type: " ++ name
  | .unreadable path _ => "Cannot read spec file " ++ path
  | .invalid path _ => "Invalid spec file " ++ path
  | .noObject path => "Spec file " ++ path ++ " must contain an object"

def SetupFault.message (fault : SetupFault) : String :=
  match fault with
  | .unreadable _ why => fault.headline ++ ": " ++ why
  | .invalid _ why => fault.headline ++ ": " ++ why
  | _ => fault.headline

def ValueFault.message : ValueFault → String
  | .draft fault => fault.message
  | .operator word => Text.quoted word ++ " is not a valid FilterOperator"
  | .tooManyDigits count =>
    "Exceeds the limit (4300 digits) for integer string conversion: value has " ++
      Decimal.intText count ++ " digits; use sys.set_int_max_str_digits() to increase the limit"
  | .tooLong =>
    "Exceeds the limit (4300 digits) for integer string conversion; " ++
      "use sys.set_int_max_str_digits() to increase the limit"
  | .notWhole text =>
    "invalid literal for int() with base 10: " ++ String.ofList ((Text.quoted text).toList.take 200)
  | .fewRounds => "iteration value must be greater than 0."
  | .action name => Text.quoted name ++ " is not a valid RuleAction"
  | .level name => "Unknown level: " ++ Text.quoted name
  | .year n => "year " ++ Decimal.intText n ++ " is out of range"
  | .notATime => "Invalid value NaN (not a number)"
  | .nullInText => "embedded null byte"
  | .setup fault => fault.message

/-- A character by its number, a question mark in place of one that is not plain. -/
def charShown (c : Char) : String :=
  let n := Text.codeOf c
  let plain := if 31 ≤ n ∧ n < 127 then c else '?'
  "'" ++ String.singleton plain ++ "' (0x" ++ String.ofList (Nat.toDigits 16 n) ++ ")"

def TemplateFault.message : TemplateFault → String
  | .tooFew => "not enough arguments for format string"
  | .tooMany => "not all arguments converted during string formatting"
  | .noMapping => "format requires a mapping"
  | .noName name => Text.quoted name
  | .incomplete => "incomplete format"
  | .incompleteName => "incomplete format key"
  | .unknownLetter letter place =>
    "unsupported format character " ++ charShown letter ++ " at index " ++ Decimal.intText place
  | .amountKind => "* wants int"
  | .widthDigits => "width too big"
  | .widthRange => "Python int too large to convert to C ssize_t"
  | .precisionDigits => "precision too big"
  | .precisionRange => "Python int too large to convert to C int"
  | .places => "precision too large"
  | .memory => ""
  | .notReal letter kind =>
    "%" ++ String.singleton letter ++ " format: a real number is required, not " ++ kind
  | .notWhole letter kind =>
    "%" ++ String.singleton letter ++ " format: an integer is required, not " ++ kind
  | .notFloat kind => "must be real number, not " ++ kind
  | .notANumber => "cannot convert float NaN to integer"
  | .infinite => "cannot convert float infinity to integer"
  | .tooLarge => "int too large to convert to float"
  | .notChar => "%c requires int or char"
  | .charRange => "%c arg not in range(0x110000)"

def Nesting.message : Nesting → String
  | .jsonList => tooDeep ++ " while decoding a JSON array from a unicode string"
  | .jsonObject => tooDeep ++ " while decoding a JSON object from a unicode string"
  | .toml => tooDeep
  | .json => tooDeep ++ " while encoding a JSON object"
  | .text => tooDeep ++ " while getting the repr of an object"
  | .copy => tooDeep
where
  tooDeep : String := "maximum recursion depth exceeded"

def PathFault.words : PathFault → String
  | .nothing => "[Errno 2] No such file or directory"
  | .fileThere => "[Errno 17] File exists"
  | .notFolder => "[Errno 20] Not a directory"
  | .isFolder => "[Errno 21] Is a directory"
  | .longName => "[Errno 36] File name too long"

/-- A text without UTF-8, by its first surrogates. -/
def unencodableMessage (text : String) : String :=
  let cs := text.toList
  let start := (cs.takeWhile fun c => !Text.isLone c).length
  let run := (cs.drop start).takeWhile Text.isLone
  let what :=
    match run with
    | [c] =>
      "character '" ++ String.ofList (Text.escapedChar c) ++ "' in position " ++
        Decimal.intText start
    | run =>
      "characters in position " ++ Decimal.intText start ++ "-" ++
        Decimal.intText (start + run.length - 1 : Nat)
  "'utf-8' codec can't encode " ++ what ++ ": surrogates not allowed"

/-- What is said of a path and what is wrong with it. -/
def PathFault.message (why : PathFault) (path : String) : String :=
  why.words ++ ": " ++ Text.quoted path

namespace Failure

def message : Failure → String
  | .request why => why.message
  | .unauthorized => RefusalClass.authorization.defaultMessage
  | .credential why => why.message
  | .missing what => what.message
  | .taken identity => "A user with the same " ++ identity ++ " already exists"
  | .rules why => why.message
  | .value why => why.message
  | .digestText => "comparing strings with non-ASCII characters is not supported"
  | .manyRounds => "iteration value is too great."
  | .wideRounds => "Python int too large to convert to C long"
  | .idKind kind => "unhashable type: " ++ Text.quoted kind
  | .nameKind kind =>
    if kind = "bytes" then "startswith first arg must be bytes or a tuple of bytes, not str"
    else Text.quoted kind ++ " object has no attribute 'startswith'"
  | .manyRecords => "'list' object has no attribute 'get'"
  | .noLookup => "No record lookup configured for rules"
  | .template why => why.message
  | .markup => "style tags do not fit together"
  | .nesting what => what.message
  | .unencodable text => unencodableMessage text
  | .timeRange => "timestamp out of range for platform time_t"
  | .yearRange => "[Errno 75] Value too large for defined data type"
  | .levelKind shown => "Level not an integer or a valid string: " ++ shown
  | .givenTwice taker argument =>
    taker ++ "() got multiple values for argument " ++ Text.quoted argument
  | .path why name => why.message name
  | .shape => ""

/-- What keeps a text from being the name of a file or the value of a variable. -/
def ofSystemText? (text : String) : Option Failure :=
  if !Text.isOctetText text.toList then some (.unencodable text)
  else if text.contains '\x00' then some (.value .nullInText)
  else none

/-- The whole number that a text writes. -/
def readWhole (text : String) : Except Failure Int :=
  match Decimal.readInt text with
  | .ok n => .ok n
  | .error .malformed => .error (.value (.notWhole text))
  | .error (.tooLong n) => .error (.value (.tooManyDigits n))

/-- The class of refusal, if the failure is one. -/
def refusal? : Failure → Option RefusalClass
  | .request _ => some .request
  | .unauthorized => some .authorization
  | .credential _ => some .credential
  | .missing _ => some .notFound
  | .taken _ => some .conflict
  | _ => none

/-- A result of which a fault of a draft is the failure. -/
def ofDraft {α : Type} : Except DraftFault α → Except Failure α
  | .ok a => .ok a
  | .error e => .error (.value (.draft e))

end Failure

/-! ## Texts that may be missing -/

/-- The failure of what cannot be written, `deep` being what it is to be written as. -/
def Unwritable.failure (deep : Nesting) : Unwritable → Failure
  | .long => .value .tooLong
  | .deep => .nesting deep

/-- The text, unless something in what it stands for cannot be written. -/
def textUnless (fault : Option Unwritable) (text : String) : Except Failure String :=
  match fault with
  | none => .ok text
  | some u => .error (u.failure .text)

/-- The text of a key. -/
def Key.spelled (key : Key) : Except Failure String :=
  textUnless (key.unwritable? maxNesting) key.asText

/-- A key as it is shown. -/
def Key.showing (key : Key) : Except Failure String :=
  textUnless (key.unwritable? maxNesting) key.shown

/-- The text of a draft. -/
def Draft.spelled (d : Draft) : Except Failure String :=
  textUnless (d.unwritable? maxNesting) d.asText

/-- A draft as it is shown. -/
def Draft.showing (d : Draft) : Except Failure String :=
  textUnless (d.unwritable? maxNesting) d.shown

/-- The text of a value. -/
def Value.spelled (v : Value) : Except Failure String := (Draft.ofValue v).spelled

/-- A value as it is shown. -/
def Value.showing (v : Value) : Except Failure String := (Draft.ofValue v).showing

/-- The text of the id in a record, null being no id, as no record has none. -/
def Record.idOf (record : Option Record) : Except Failure (Option String) :=
  match record.bind fun r => r.get? "_id" with
  | none => .ok none
  | some .null => .ok none
  | some id => id.spelled.map some

end DocumentStore
