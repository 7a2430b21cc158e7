/-
  DocumentStore.Query.Directives — what a read asks for, read from its parameters.

  `where`, `sortBy`, `offset`, `pageSize` and `distinct` choose records; `count`, `select`
  and `load` shape the answer. An empty parameter is an absent one. An offset or page size
  is any number with its fraction dropped; where that is zero or no number the default
  counts, zero and ten.
-/

import DocumentStore.Query.Filter
import DocumentStore.Query.Order

namespace DocumentStore.Query

open DocumentStore.Decimal

/-- A join: put under `as_` the record of `collection` whose id the field `source` holds. -/
structure Load where
  as_ : String
  source : String
  collection : String
  deriving DecidableEq, Repr

/-- Field names between commas, empty ones left out. -/
def fieldList (text : String) : List String :=
  ((Text.splitAt ',' text.toList).filter fun piece => !piece.isEmpty).map String.ofList

/-- A join written `alias=source:collection`, no part being empty. -/
def Load.parse (directive : String) : Except Failure Load :=
  let malformed := Except.error (.request (.loadForm directive))
  match Text.cut '=' directive.toList with
  | none => malformed
  | some (name, relation) =>
    match Text.cut ':' relation with
    | none => malformed
    | some (source, collection) =>
      if name.isEmpty || source.isEmpty || collection.isEmpty then malformed
      else .ok ⟨String.ofList name, String.ofList source, String.ofList collection⟩

/-- The joins read in order, or the first failure. -/
def Load.parseAll : List String → Except Failure (List Load)
  | [] => .ok []
  | directive :: rest =>
    match Load.parse directive with
    | .error e => .error e
    | .ok load => (Load.parseAll rest).map (load :: ·)

def defaultOffset : Int := 0

def defaultPageSize : Int := 10

/-- A count given as any number, or `default` for zero and what is no number. -/
def readCount (default : Int) (text : String) : Int :=
  match (readFloat? text).bind Binary64.truncate? with
  | none => default
  | some n => if n = 0 then default else n

structure Directives where
  filter : Option Filter
  sortBy : List SortKey
  offset : Option Int
  pageSize : Option Int
  distinct : List String
  count : Bool
  select : List String
  load : List Load
  deriving DecidableEq, Repr

/-- No directive at all. -/
def Directives.none : Directives := ⟨.none, [], .none, .none, [], false, [], []⟩

abbrev Params := Named String

/-- A parameter that is there and not empty. -/
def param (params : Params) (name : String) : Option String :=
  match params.get? name with
  | some text => if text.isEmpty then .none else some text
  | .none => .none

def Directives.parseFilter (params : Params) : Except Failure (Option Filter) :=
  match param params "where" with
  | some text => (Filter.parse text).map some
  | .none => .ok .none

def Directives.parseLoads (params : Params) : Except Failure (List Load) :=
  match param params "load" with
  | some text => Load.parseAll (fieldList text)
  | .none => .ok []

def Directives.parse (params : Params) : Except Failure Directives :=
  match Directives.parseFilter params with
  | .error e => .error e
  | .ok filter =>
    (Directives.parseLoads params).map fun load =>
      { filter
        sortBy := ((param params "sortBy").map SortKey.parseList).getD []
        offset := (param params "offset").map (readCount defaultOffset)
        pageSize := (param params "pageSize").map (readCount defaultPageSize)
        distinct := ((param params "distinct").map fieldList).getD []
        count := (param params "count").isSome
        select := ((param params "select").map fieldList).getD []
        load }

end DocumentStore.Query
