/-
  DocumentStore.Store.Basic — collections of records, and how they are read and written.

  A collection comes into being with the first record added to it and stays when its last
  one is deleted. Collections and records keep the order in which they came; a change
  leaves a record in its place. Every record is given out with its id in `_id`.

  Names of collections are texts, but for those that a seed brings with it: a seed may name a
  collection by any key. An id is a text, and ids of the same text are one.

  A write gives the store after it, changed or not, beside its result. What is refused
  before the record is in its place leaves the collections as they were.
-/

import DocumentStore.Store.Entry
import DocumentStore.Store.Supply
import DocumentStore.Text.Case
import DocumentStore.Value.Compare

namespace DocumentStore

open Store (Entry IdSource Clock)

abbrev Collection := Named Entry

abbrev Collections := Keyed Key Collection

structure Store where
  collections : Collections
  ids : IdSource
  clock : Clock

/-! ## Reading -/

namespace Collections

def collection (cs : Collections) (name : Key) : Except Failure Collection :=
  match cs.get? name with
  | some c => .ok c
  | none => .error (.missing (.collection name.asText))

def entry (cs : Collections) (name : Key) (id : String) : Except Failure Entry :=
  match cs.collection name with
  | .error e => .error e
  | .ok c =>
    match c.get? id with
    | some e => .ok e
    | none => .error (.missing (.entry id))

/-- The records of a list of entries, or the failure of the first that cannot be read. -/
def readEntries : List (String × Entry) → Except Failure (List Record)
  | [] => .ok []
  | (id, e) :: rest =>
    match e.read id with
    | .error f => .error f
    | .ok record => (readEntries rest).map (record :: ·)

def getAll (cs : Collections) (name : Key) : Except Failure (List Record) :=
  match cs.collection name with
  | .error e => .error e
  | .ok c => readEntries c

def getOne (cs : Collections) (name : Key) (id : String) : Except Failure Record :=
  match cs.entry name id with
  | .error e => .error e
  | .ok e => e.read id

/-- Equality in exact look-ups: of two texts letter case aside, else of values. -/
def lookupSame (expected actual : Value) : Bool :=
  match expected, actual with
  | .text a, .text b => Text.foldChars a.toList == Text.foldChars b.toList
  | a, b => a.same b

/-- Whether the entry has every field asked for, with the value asked for. -/
def meetsAll (equals : Record) (id : String) (e : Entry) : Bool :=
  let record := e.record.put Store.idField (.text id)
  equals.all fun (name, expected) =>
    match record.get? name with
    | some actual => lookupSame expected actual
    | none => false

def findExact (cs : Collections) (name : Key) (equals : Record) :
    Except Failure (List Record) :=
  match cs.collection name with
  | .error e => .error e
  | .ok c => readEntries (c.filter fun (id, e) => meetsAll equals id e)

/-- Every collection with its records, in order. -/
def dump : Collections → Except Failure (List (Key × List Record))
  | [] => .ok []
  | (name, c) :: rest =>
    match readEntries c with
    | .error e => .error e
    | .ok records => (dump rest).map ((name, records) :: ·)

/-! ## Seeding -/

/-- The records of a seed put one after the other into a collection. -/
def seedInto (c : Collection) : Draft.Members → Except Failure Collection
  | [] => .ok c
  | (id, draft) :: rest =>
    match draft.checkRecord with
    | .error e => Entry.failDraft e
    | .ok record =>
      match id.spelled with
      | .error f => .error f
      | .ok id => seedInto (c.put id (Entry.ofRecord record)) rest

def seedAll : Draft.Members → Except Failure Collections
  | [] => .ok []
  | (name, draft) :: rest =>
    match seedInto [] (draft.members?.getD []) with
    | .error e => .error e
    | .ok c => (seedAll rest).map ((name, c) :: ·)

/-- The collections that a seed describes; null describes none. -/
def ofSeed (seed : Draft) : Except Failure Collections := seedAll (seed.members?.getD [])

end Collections

/-! ## Writing -/

namespace Store

/-- The store with an entry put under a name and an id, at the time of the clock's last
reading. -/
def putEntry (s : Store) (name : Key) (id : String) (e : Entry) (ids : IdSource) (clock : Clock) :
    Store :=
  let c := (s.collections.get? name).getD []
  ⟨s.collections.put name (c.put id e), ids, clock⟩

/-- Creates a record under a fresh id. -/
def add (s : Store) (name : Key) (payload : Draft) : Except Failure Record × Store :=
  match payload.members? with
  | none => (Entry.failDraft .notRecord, s)
  | some members =>
    match Entry.create members with
    | .error e => (Entry.failDraft e, s)
    | .ok e =>
      let (id, ids) := s.ids.fresh ((s.collections.get? name).getD []).names
      let (now, clock) := s.clock.read
      let e := e.put createdField (.int now)
      (e.read id, s.putEntry name id e ids clock)

/-- Replaces all of a record but its system fields. -/
def replace (s : Store) (name : Key) (id : String) (payload : Draft) :
    Except Failure Record × Store :=
  match payload.members? with
  | none => (Entry.failDraft .notRecord, s)
  | some members =>
    match Entry.ofPayload members with
    | .error e => (Entry.failDraft e, s)
    | .ok changes =>
      match s.collections.entry name id with
      | .error e => (.error e, s)
      | .ok e =>
        let (now, clock) := s.clock.read
        let e := e.replace changes now
        (e.read id, s.putEntry name id e s.ids clock)

/-- Puts the fields of the payload over a record. -/
def merge (s : Store) (name : Key) (id : String) (payload : Draft) :
    Except Failure Record × Store :=
  match payload.members? with
  | none => (Entry.failDraft .notRecord, s)
  | some members =>
    match Entry.ofPayload members with
    | .error e => (Entry.failDraft e, s)
    | .ok changes =>
      match s.collections.entry name id with
      | .error e => (.error e, s)
      | .ok e =>
        match e.foreign with
        | some kind => (Entry.failDraft (.name kind), s)
        | none =>
          let (now, clock) := s.clock.read
          let e := e.merge changes now
          (e.read id, s.putEntry name id e s.ids clock)

/-- Removes a record and tells when. -/
def delete (s : Store) (name : Key) (id : String) : Except Failure Record × Store :=
  match s.collections.entry name id with
  | .error e => (.error e, s)
  | .ok _ =>
    let (now, clock) := s.clock.read
    let c := (s.collections.get? name).getD []
    (.ok [(deletedField, .int now)], ⟨s.collections.put name (c.erase id), s.ids, clock⟩)

end Store

end DocumentStore
