/-
  DocumentStore.Store.Entry — a stored record, and what a write keeps of its payload.

  Four fields belong to the store: the id, the times of creation and of the last change,
  and the owner. A payload's own values for them are left out.

  A payload may name fields by what is no text. Such an entry is kept, but cannot be read
  until it is replaced; `foreign` is the kind of its first name of this sort.
-/

import DocumentStore.Failure

namespace DocumentStore.Store

def idField : String := "_id"

def ownerField : String := "_ownerId"

def createdField : String := "_createdOn"

def updatedField : String := "_updatedOn"

def deletedField : String := "_deletedOn"

def systemFields : List String := [idField, createdField, updatedField, ownerField]

def isSystem (field : String) : Bool := systemFields.contains field

structure Entry where
  record : Record
  foreign : Option String
  deriving DecidableEq, Repr

namespace Entry

def ofRecord (record : Record) : Entry := ⟨record, none⟩

def failDraft {α : Type} (fault : DraftFault) : Except Failure α := .error (.value (.draft fault))

/-- A copy of the record under its id. -/
def read (entry : Entry) (id : String) : Except Failure Record :=
  match entry.foreign with
  | some kind => failDraft (.name kind)
  | none => .ok (entry.record.put idField (.text id))

def put (entry : Entry) (field : String) (value : Value) : Entry :=
  { entry with record := entry.record.put field value }

/-- The payload's fields without the store's own. -/
def ofPayload : Draft.Members → Except DraftFault Entry
  | [] => .ok ⟨[], none⟩
  | (key, draft) :: rest =>
    match key with
    | .text name =>
      if isSystem name then ofPayload rest
      else
        match draft.check with
        | .error e => .error e
        | .ok v =>
          (ofPayload rest).map fun entry => { entry with record := (name, v) :: entry.record }
    | key =>
      match draft.check with
      | .error e => .error e
      | .ok _ => (ofPayload rest).map fun entry => { entry with foreign := some key.kind }

/-- The owner that a payload names; null names none. -/
def ownerOf (payload : Draft.Members) : Except DraftFault Record :=
  match payload.get? ownerField with
  | none => .ok []
  | some draft =>
    match draft.check with
    | .error e => .error e
    | .ok .null => .ok []
    | .ok v => .ok [(ownerField, v)]

/-- A new entry: the payload's owner and fields. -/
def create (payload : Draft.Members) : Except DraftFault Entry :=
  match ownerOf payload with
  | .error e => .error e
  | .ok owner => (ofPayload payload).map fun entry => { entry with record := owner ++ entry.record }

/-- The store's fields of a record, in their own order. -/
def systemPart (record : Record) : Record :=
  systemFields.filterMap fun name => (record.get? name).map fun v => (name, v)

/-- The time of a change: the clock's, but always later than the last change. -/
def changeStamp (record : Record) (now : Int) : Int :=
  match record.get? updatedField with
  | some (.int last) => if now ≤ last then last + 1 else now
  | _ => now

/-- The entry with nothing but the system fields kept. -/
def replace (entry changes : Entry) (now : Int) : Entry :=
  { changes with record := changes.record ++ systemPart entry.record }.put updatedField
    (.int (changeStamp entry.record now))

/-- The entry with the changes put over it. -/
def merge (entry changes : Entry) (now : Int) : Entry :=
  { changes with record := entry.record.overlay changes.record }.put updatedField
    (.int (changeStamp entry.record now))

end Entry

end DocumentStore.Store
