/-
  DocumentStore.Http.Message — requests as they come in and responses as they go out.

  The names of headers are the same in any letter case, and of repeated headers the first
  counts. A body that is no JSON is the text it is; an empty one is null.
-/

import DocumentStore.Http.Target
import DocumentStore.Json.Complaint
import DocumentStore.Text.Case

namespace DocumentStore.Http

abbrev Headers := List (String × String)

def Headers.get? (headers : Headers) (name : String) : Option String :=
  (headers.find? fun h => Text.lower h.1 == Text.lower name).map (·.2)

def Headers.has (headers : Headers) (name : String) : Bool := (headers.get? name).isSome

structure Request where
  method : String
  target : Target
  headers : Headers
  body : List UInt8

/-- What the body says. A body is refused only for the size of what it says. -/
def Request.value (request : Request) : Except Failure Value :=
  if request.body.isEmpty then .ok .null
  else
    let text := Text.Utf8.decode request.body
    match Json.readChars text with
    | .ok v => .ok v
    | .error (.malformed ..) => .ok (.text (String.ofList text))
    | .error (.excess e) => .error e.failure

inductive Content where
  | nothing
  | json (v : Value)
  | plain (text : String)
  deriving Repr

def Content.kind? : Content → Option String
  | .nothing => none
  | .json _ => some "application/json"
  | .plain _ => some "text/plain; charset=utf-8"

structure Response where
  status : Nat
  content : Content
  headers : Headers
  /-- Whether the response is held back for a while. -/
  delayed : Bool
  deriving Repr

namespace Response

def make (status : Nat) (content : Content) (headers : Headers) : Response :=
  ⟨status, content, headers, false⟩

/-- All headers, that of the content first. -/
def allHeaders (r : Response) : Headers :=
  match r.content.kind? with
  | some kind => ("content-type", kind) :: r.headers
  | none => r.headers

def withHeaders (r : Response) (headers : Headers) : Response :=
  { r with headers := r.headers ++ headers }

/-- The answer to what the protocol itself does not allow. -/
def detail (status : Nat) (words : String) (headers : Headers) : Response :=
  make status (.json (.object [("detail", .text words)])) headers

def failure (status : Nat) (message : String) : Response :=
  make status (.json (.object [("code", .int status), ("message", .text message)])) []

/-- The answer to everything that went wrong inside: it tells nothing. -/
def serverError : Response := failure 500 "Server Error"

def isServerError (r : Response) : Bool := r.status == 500

/-- The answer to a failure; a refusal has its own, if its message can be sent. -/
def ofFailure (f : Failure) : Response :=
  match f.refusal? with
  | some k => if Text.isEncodable f.message.toList then failure k.status f.message else serverError
  | none => serverError

mutual

/-- Whether a response can carry the value: JSON has no words for infinities and not-a-number,
UTF-8 none for a surrogate that stands alone, and too long an integer is not written out. -/
def isWritable : Value → Bool
  | .int n => !Decimal.isLong n
  | .float x => x.isFinite
  | .text s => Text.isEncodable s.toList
  | .list items => areWritable items
  | .object members => areWritableMembers members
  | _ => true

def areWritable : List Value → Bool
  | [] => true
  | v :: vs => isWritable v && areWritable vs

def areWritableMembers : List (String × Value) → Bool
  | [] => true
  | (n, v) :: ms => Text.isEncodable n.toList && isWritable v && areWritableMembers ms

end

/-- The answer with a result; null is answered with nothing. -/
def ofValue (v : Value) : Response :=
  match v with
  | .null => make 204 .nothing []
  | v => if isWritable v then make 200 (.json v) [] else serverError

def ofResult : Except Failure Value → Response
  | .ok v => ofValue v
  | .error f => ofFailure f

end Response

end DocumentStore.Http
