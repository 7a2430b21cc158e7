/-
  DocumentStore.Query.Narrow — which records a read returns.

  A list is filtered, sorted, cut to a page and thinned to one record per combination of
  the `distinct` fields, in this order; a single record stays. Records are never changed.
  Sorting and thinning fail where a value has to be written as text that cannot be.

  A negative offset or page size counts from the end of the list, and not beyond its ends.
-/

import DocumentStore.Query.Directives

namespace DocumentStore.Query

/-- What a read finds: one record, or a list of them. -/
inductive Found where
  | one (record : Record)
  | many (records : List Record)
  deriving Repr

/-- The position that `n` names in a list of `length` items, from the end if negative. -/
def position (length : Nat) (n : Int) : Nat :=
  if n < 0 then ((length : Int) + n).toNat else n.toNat

def dropTo (offset : Int) (records : List Record) : List Record :=
  records.drop (position records.length offset)

def takePage (size : Int) (records : List Record) : List Record :=
  records.take (position records.length size)

/-- The texts of some fields of a record, in the order of the fields. -/
def fieldTexts (record : Record) : List String → Except Failure (List String)
  | [] => .ok []
  | field :: rest =>
    match keyText (record.value field) with
    | .error f => .error f
    | .ok text => (fieldTexts record rest).map (text :: ·)

/-- The text under which records with equal field texts count as equal. -/
def distinctKey (fields : List String) (record : Record) : Except Failure String :=
  (fieldTexts record fields).map (String.intercalate "::")

/-- The first record of each key, leaving out those whose key is in `seen`. -/
def firstOfEach (key : Record → Except Failure String) (seen : List String) :
    List Record → Except Failure (List Record)
  | [] => .ok []
  | r :: rest =>
    match key r with
    | .error f => .error f
    | .ok k =>
      if k ∈ seen then firstOfEach key seen rest
      else (firstOfEach key (k :: seen) rest).map (r :: ·)

def distinctRecords (fields : List String) (records : List Record) :
    Except Failure (List Record) :=
  firstOfEach (distinctKey fields) [] records

/-- The records that the filter accepts. -/
def filtered (d : Directives) (records : List Record) : List Record :=
  match d.filter with
  | some filter => records.filter filter.accepts
  | none => records

/-- The page that is asked for. -/
def paged (d : Directives) (records : List Record) : List Record :=
  let records := match d.offset with
    | some offset => dropTo offset records
    | none => records
  match d.pageSize with
  | some size => takePage size records
  | none => records

def narrowList (d : Directives) (records : List Record) : Except Failure (List Record) :=
  match sortRecords d.sortBy (filtered d records) with
  | .error f => .error f
  | .ok sorted =>
    if d.distinct.isEmpty then .ok (paged d sorted) else distinctRecords d.distinct (paged d sorted)

def narrow (d : Directives) : Found → Except Failure Found
  | .one record => .ok (.one record)
  | .many records => (narrowList d records).map .many

end DocumentStore.Query
