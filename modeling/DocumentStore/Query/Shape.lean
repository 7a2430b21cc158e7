/-
  DocumentStore.Query.Shape — turning the records a read found into its answer.

  A count replaces the records; otherwise they are projected onto the selected fields and
  joined with related records. Answers line up one to one with the records.

  A join looks the related record up by the text of the source field as it stands after the
  joins before it; without a value there the alias is null. A password hash never comes
  along with a related record.
-/

import DocumentStore.Query.Narrow

namespace DocumentStore.Query

/-- The field of a user record that holds the password hash. -/
def passwordHash : String := "hashedPassword"

inductive Shaped where
  | one (record : Record)
  | many (records : List Record)
  | count (n : Nat)
  deriving Repr

/-- The fields listed that the record has, in the order listed. -/
def project (fields : List String) (record : Record) : Record :=
  Keyed.ofList (fields.filterMap fun name => (record.get? name).map fun v => (name, v))

/-- Finds a record by collection and id. -/
abbrev Resolver := String → String → Except Failure Record

def joinRecord (resolve : Resolver) (load : Load) (record : Record) : Except Failure Record :=
  match record.value load.source with
  | .null => .ok (record.put load.as_ .null)
  | id =>
    match id.spelled with
    | .error f => .error f
    | .ok id =>
      (resolve load.collection id).map fun related =>
        record.put load.as_ (.object (related.erase passwordHash))

def joinRecords (resolve : Resolver) (load : Load) : List Record → Except Failure (List Record)
  | [] => .ok []
  | record :: rest =>
    match joinRecord resolve load record with
    | .error e => .error e
    | .ok joined => (joinRecords resolve load rest).map (joined :: ·)

/-- The joins one after the other, each over all records. -/
def joinAll (resolve : Resolver) : List Load → List Record → Except Failure (List Record)
  | [], records => .ok records
  | load :: rest, records =>
    match joinRecords resolve load records with
    | .error e => .error e
    | .ok joined => joinAll resolve rest joined

def shapeList (d : Directives) (resolve : Option Resolver) (records : List Record) :
    Except Failure (List Record) :=
  let records := if d.select.isEmpty then records else records.map (project d.select)
  if d.load.isEmpty then .ok records
  else
    match resolve with
    | none => .error (.request .noRelations)
    | some resolve => joinAll resolve d.load records

def Found.records : Found → List Record
  | .one record => [record]
  | .many records => records

/-- One record again if one was found. -/
def Found.reshape (found : Found) (records : List Record) : Shaped :=
  match found, records with
  | .one _, [record] => .one record
  | _, records => .many records

def shape (d : Directives) (resolve : Option Resolver) (found : Found) :
    Except Failure Shaped :=
  if d.count then .ok (.count found.records.length)
  else (shapeList d resolve found.records).map found.reshape

/-- The whole of a query over records already at hand. -/
def run (d : Directives) (resolve : Option Resolver) (found : Found) : Except Failure Shaped :=
  match narrow d found with
  | .error f => .error f
  | .ok narrowed => shape d resolve narrowed

def Shaped.toValue : Shaped → Value
  | .one record => .object record
  | .many records => .list (records.map .object)
  | .count n => .int n

end DocumentStore.Query
