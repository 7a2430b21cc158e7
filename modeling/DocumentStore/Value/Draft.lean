/-
  DocumentStore.Value.Draft — values as a caller hands them in, before a store accepts them.

  A draft may hold what no store does: tuples, objects whose names are no texts, and
  foreign values of which only the kind and a text are known. `check` accepts exactly the drafts in
  which every name is a text and nothing is foreign; a tuple becomes a list. It reports the
  first fault in reading order, a name before what stands under it. How deep a draft nests is
  nothing to `check`; whether there is room for the calls that copying it takes is `copying`.

  Every value is a draft, and `check (ofValue v)` is `v` again.
-/

import DocumentStore.Value.Basic
import DocumentStore.Value.Key

namespace DocumentStore

open DocumentStore.Decimal

inductive Draft where
  | null
  | bool (b : Bool)
  | int (n : Int)
  | float (x : Binary64)
  | text (s : String)
  | list (items : List Draft)
  | tuple (items : List Draft)
  | object (members : List (Key × Draft))
  | foreign (kind spelled : String)
  deriving Inhabited, Repr

inductive DraftFault where
  /-- A member name that is no text. -/
  | name (kind : String)
  | foreign (kind : String)
  | notRecord
  deriving DecidableEq, Repr

namespace Draft

/-- The word for what kind of value this is. -/
def kind : Draft → String
  | .null => "NoneType"
  | .bool _ => "bool"
  | .int _ => "int"
  | .float _ => "float"
  | .text _ => "str"
  | .list _ => "list"
  | .tuple _ => "tuple"
  | .object _ => "dict"
  | .foreign kind _ => kind

mutual

def ofValue : Value → Draft
  | .null => .null
  | .bool b => .bool b
  | .int n => .int n
  | .float x => .float x
  | .text s => .text s
  | .list items => .list (ofItems items)
  | .object members => .object (ofMembers members)

def ofItems : List Value → List Draft
  | [] => []
  | v :: vs => ofValue v :: ofItems vs

def ofMembers : List (String × Value) → List (Key × Draft)
  | [] => []
  | (n, v) :: ms => (.text n, ofValue v) :: ofMembers ms

end

mutual

def check : Draft → Except DraftFault Value
  | .null => .ok .null
  | .bool b => .ok (.bool b)
  | .int n => .ok (.int n)
  | .float x => .ok (.float x)
  | .text s => .ok (.text s)
  | .list items => (checkItems items).map .list
  | .tuple items => (checkItems items).map .list
  | .object members => (checkMembers members).map .object
  | .foreign kind _ => .error (.foreign kind)

def checkItems : List Draft → Except DraftFault (List Value)
  | [] => .ok []
  | d :: ds =>
    match check d with
    | .error e => .error e
    | .ok v => (checkItems ds).map (v :: ·)

def checkMembers : List (Key × Draft) → Except DraftFault Record
  | [] => .ok []
  | (.text n, d) :: ms =>
    match check d with
    | .error e => .error e
    | .ok v => (checkMembers ms).map ((n, v) :: ·)
  | (key, _) :: _ => .error (.name key.kind)

end

/-- `check`, for a draft that has to be an object. -/
def checkRecord : Draft → Except DraftFault Record
  | .object members => checkMembers members
  | _ => .error .notRecord

/-! ## Room for copying -/

/-- How the copying of a draft ends. -/
inductive Copying where
  | done
  /-- At a fault of the draft. -/
  | faulty
  /-- Where there is no room for another call. -/
  | exhausted
  deriving DecidableEq, Repr

namespace Copying

/-- Two copies, one after the other. -/
def andThen (a b : Copying) : Copying := if a = .done then b else a

end Copying

mutual

/-- Copying with room for so many calls: an object takes one, a list one for itself and one for
its items. -/
def copying (room : Nat) : Draft → Copying
  | .list items => if room < 2 then .exhausted else copyingItems (room - 2) items
  | .tuple items => if room < 2 then .exhausted else copyingItems (room - 2) items
  | .object members => if room < 1 then .exhausted else copyingMembers (room - 1) members
  | .foreign _ _ => .faulty
  | _ => .done

def copyingItems (room : Nat) : List Draft → Copying
  | [] => .done
  | d :: ds => (copying room d).andThen (copyingItems room ds)

def copyingMembers (room : Nat) : List (Key × Draft) → Copying
  | [] => .done
  | (.text _, d) :: ms => (copying room d).andThen (copyingMembers room ms)
  | _ :: _ => .faulty

end

mutual

/-- The value that a draft is, if it is one as it stands. -/
def asValue? : Draft → Option Value
  | .null => some .null
  | .bool b => some (.bool b)
  | .int n => some (.int n)
  | .float x => some (.float x)
  | .text s => some (.text s)
  | .list items => (asItems? items).map .list
  | .object members => (asMembers? members).map .object
  | .tuple _ => none
  | .foreign _ _ => none

def asItems? : List Draft → Option (List Value)
  | [] => some []
  | d :: ds =>
    match asValue? d, asItems? ds with
    | some v, some vs => some (v :: vs)
    | _, _ => none

def asMembers? : List (Key × Draft) → Option Record
  | [] => some []
  | (.text n, d) :: ms =>
    match asValue? d, asMembers? ms with
    | some v, some vs => some ((n, v) :: vs)
    | _, _ => none
  | _ :: _ => none

end

/-- Everything is true but null, false, zero and what is empty. -/
def truthy : Draft → Bool
  | .null => false
  | .bool b => b
  | .int n => n != 0
  | .float x => !x.isZero
  | .text s => !s.isEmpty
  | .list items => !items.isEmpty
  | .tuple items => !items.isEmpty
  | .object members => !members.isEmpty
  | .foreign _ _ => true

def isNumber : Draft → Bool
  | .int _ => true
  | .float _ => true
  | _ => false

/-! ## Member lists -/

/-- The members of an object draft. -/
abbrev Members := Keyed Key Draft

def members? : Draft → Option Members
  | .object members => some members
  | _ => none

/-! ## Keys -/

mutual

def ofKey : Key → Draft
  | .null => .null
  | .bool b => .bool b
  | .int n => .int n
  | .float x => .float x
  | .text s => .text s
  | .tuple items => .tuple (ofKeys items)
  | .foreign kind => .foreign kind kind

def ofKeys : List Key → List Draft
  | [] => []
  | k :: ks => ofKey k :: ofKeys ks

end

mutual

/-- The key that a draft is, or the kind of what cannot be one. -/
def asKey : Draft → Except String Key
  | .null => .ok .null
  | .bool b => .ok (.bool b)
  | .int n => .ok (.int n)
  | .float x => .ok (.float x)
  | .text s => .ok (.text s)
  | .tuple items => (asKeys items).map .tuple
  | .foreign kind _ => if kind = "set" then .error kind else .ok (.foreign kind)
  | .list _ => .error "list"
  | .object _ => .error "dict"

def asKeys : List Draft → Except String (List Key)
  | [] => .ok []
  | d :: ds =>
    match asKey d with
    | .error kind => .error kind
    | .ok k => (asKeys ds).map (k :: ·)

end

end Draft

namespace Key

/-- A key as a value; a tuple is a list there. -/
def toValue (key : Key) : Value :=
  match (Draft.ofKey key).check with
  | .ok v => v
  | .error _ => .null

end Key

end DocumentStore
