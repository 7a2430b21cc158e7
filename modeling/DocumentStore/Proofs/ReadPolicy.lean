/-
  DocumentStore.Proofs.ReadPolicy — the rules of single fields, seen from a read.

  A record comes into an answer in two ways. It is found in the collection that is read; then
  the rules decide about it as it is stored. Or a join finds it; then no rule is asked.
  - `read_respects_iff`: what is found is shown under its rules. An answer keeps the rules of
    all its records exactly if the caller might have read the joined ones whole, but for a
    password hash.
  - `join_shows_unreadable_field`: so a join reads what the rules hide from everybody.
-/

import Mathlib
import DocumentStore.Proofs.Collections
import DocumentStore.Proofs.Gate
import DocumentStore.Proofs.Join
import DocumentStore.Proofs.Writes
import DocumentStore.Service

namespace DocumentStore

namespace Service

open Query (Directives Found Load Resolver Embeds joinEach)
open Rule (Engine)

/-! ## Answers -/

/-- A read that went through: the collection it reads, where its joins look, what it asks
for, what it found and what it answers. -/
structure Reading where
  name : String
  resolve : Resolver
  directives : Directives
  found : Found
  answer : Value

namespace Reading

variable (r : Reading)

def answered : List Record := (Engine.recordsOf r.answer).getD []

/-- The record is found, and the answer shows it so. -/
def Shows (stored shown : Record) : Prop := (stored, shown) ∈ r.found.records.zip r.answered

/-- The record is what a join into the collection finds, and the answer shows it so under the
alias. -/
def Joins (name : String) (stored shown : Record) : Prop :=
  ∃ outer outerShown load, r.Shows outer outerShown ∧
    Embeds r.resolve r.directives.load (r.directives.selected outer) load stored ∧
    load.collection = name ∧ outerShown.get? load.as_ = some (.object shown)

def Contains (name : String) (stored shown : Record) : Prop :=
  name = r.name ∧ r.Shows stored shown ∨ r.Joins name stored shown

end Reading

/-- The rules let the caller read the record, and what is shown of it has no field that they
hide. -/
structure Respects (engine : Engine) (caller : Caller) (name : String) (stored shown : Record) : Prop where
  admits : engine.Admits caller .read (some name) (some stored) none
  hides : ∀ field, engine.Denies caller .read (some name) (some stored) none field → shown.get? field = none

/-! ## A read that goes through -/

section Reads

variable {engine : Engine} {data users : Collections} {caller : Caller} {name : String} {call : Call}
  {resolve : Resolver} {d : Directives} {v : Value} {records joined : List Record}

theorem queryResult_ok {α : Type} {x : Except Failure α} {a : α} (h : queryResult x = .ok a) : x = .ok a := by
  unfold queryResult at h
  split at h
  · exact h
  · cases h

theorem hiddenEach_cons (engine : Engine) (caller : Caller) (collection : Option String) (record : Record)
    (rest : List Record) :
    engine.hiddenEach caller collection (record :: rest) =
      (engine.gate caller .read collection (some record) none).bind fun hidden =>
        (engine.hiddenEach caller collection rest).map (hidden :: ·) := by
  rw [Engine.hiddenEach]
  cases engine.gate caller .read collection (some record) none <;> rfl

theorem hiddenEach_eq_ok_iff {hidden : List (List String)} :
    engine.hiddenEach caller (some name) records = .ok hidden ↔
      List.Forall₂ (fun record hs => engine.gate caller .read (some name) (some record) none = .ok hs)
        records hidden :=
  Result.collect_eq_ok_iff (engine.hiddenEach caller (some name)) _ rfl (hiddenEach_cons engine caller (some name))

theorem onlyRecords_map_object (records : List Record) :
    Engine.onlyRecords (records.map .object) = some records := by
  induction records with
  | nil => rfl
  | cons record rest ih =>
    simp only [List.map_cons, Engine.onlyRecords, ih, Option.map_some]

theorem recordsOf_foundValue (found : Found) : Engine.recordsOf (foundValue found) = some found.records := by
  cases found with
  | one record => rfl
  | many records => exact onlyRecords_map_object records

def ShownAs (engine : Engine) (caller : Caller) (name : String) (resolve : Resolver) (d : Directives)
    (stored shown : Record) : Prop :=
  ∃ hidden joined, engine.gate caller .read (some name) (some stored) none = .ok hidden ∧
    joinEach resolve d.load (d.selected stored) = .ok joined ∧ shown = Engine.redact hidden joined

/-- Records are shown each as one that passes the rules, is joined and is redacted. -/
theorem forall₂_shownAs_iff {shown : List Record} :
    List.Forall₂ (ShownAs engine caller name resolve d) records shown ↔
      ∃ hidden joined,
        List.Forall₂ (fun record hs => engine.gate caller .read (some name) (some record) none = .ok hs)
          records hidden ∧
        List.Forall₂ (fun record j => joinEach resolve d.load (d.selected record) = .ok j) records joined ∧
        shown = List.zipWith Engine.redact hidden joined := by
  constructor
  · intro h
    induction h with
    | nil => exact ⟨[], [], .nil, .nil, rfl⟩
    | cons hfirst _ ih =>
      obtain ⟨hs, j, hg, hj, rfl⟩ := hfirst
      obtain ⟨hidden, joined, hgs, hjs, rfl⟩ := ih
      exact ⟨hs :: hidden, j :: joined, .cons hg hgs, .cons hj hjs, rfl⟩
  · rintro ⟨hidden, joined, hg, hj, rfl⟩
    induction hg generalizing joined with
    | nil =>
      cases hj
      exact .nil
    | cons hgate _ ih =>
      cases hj with
      | cons hjoin hrest => exact .cons ⟨_, _, hgate, hjoin, rfl⟩ (ih _ hrest)

theorem redactItems_map_object {hidden : List (List String)} (h : hidden.length = joined.length) :
    Engine.redactItems hidden (joined.map .object) = (List.zipWith Engine.redact hidden joined).map .object := by
  induction hidden generalizing joined with
  | nil =>
    obtain rfl : joined = [] := List.eq_nil_of_length_eq_zero h.symm
    rfl
  | cons hs others ih =>
    cases joined with
    | nil => cases h
    | cons j rest =>
      simp only [List.map_cons, Engine.redactItems, Engine.redactValue, List.zipWith_cons_cons]
      rw [ih (Nat.succ.inj h)]

/-- An answer is redacted record by record, be it one record or a list. -/
theorem redactAll_reshape {found : Found} {hidden : List (List String)} (hh : hidden.length = found.records.length)
    (hj : joined.length = found.records.length) :
    Engine.redactAll hidden (found.reshape joined).toValue =
      (found.reshape (List.zipWith Engine.redact hidden joined)).toValue := by
  cases found with
  | many rs => exact congrArg Value.list (redactItems_map_object (hh.trans hj.symm))
  | one r =>
    obtain ⟨hs, rfl⟩ := List.length_eq_one_iff.mp hh
    obtain ⟨j, rfl⟩ := List.length_eq_one_iff.mp hj
    rfl

theorem recordsOf_reshape {found : Found} {shown : List Record} (h : shown.length = found.records.length) :
    Engine.recordsOf (found.reshape shown).toValue = some shown := by
  cases found with
  | many rs => exact onlyRecords_map_object shown
  | one r =>
    obtain ⟨x, rfl⟩ := List.length_eq_one_iff.mp h
    rfl

theorem select_holds {path : List String} {found : Found} (h : select data name path d = .ok found)
    {record : Record} (hm : record ∈ found.records) : data.Holds name record := by
  unfold select at h
  split at h
  · obtain ⟨r, hr, hnarrow⟩ := Result.bind_eq_ok.mp h
    rw [List.mem_singleton.mp (Query.mem_narrow hnarrow hm)]
    exact Collections.holds_of_getOne hr
  · obtain ⟨rs, hr, hnarrow⟩ := Result.bind_eq_ok.mp h
    exact Collections.holds_of_getAll hr (Query.mem_narrow hnarrow hm)

/-- A read without a count goes through exactly if every record that it finds can be shown. Then
it answers these records, each as it is shown. -/
theorem readFrom_eq_ok_iff (hd : Directives.parse call.params = .ok d) (hcount : d.count = false) :
    readFrom engine data users name call = .ok v ↔
      ∃ found shown, select data name call.path d = .ok found ∧
        List.Forall₂ (ShownAs engine call.caller name (related data users) d) found.records shown ∧
        v = (found.reshape shown).toValue := by
  have hshape : ∀ found, Query.shape d (some (related data users)) found =
      (Query.shapeList d (some (related data users)) found.records).map found.reshape := fun found => by
    rw [Query.shape, if_neg (by simp [hcount])]
  unfold readFrom
  rw [hd]
  dsimp only [queryResult]
  constructor
  · intro h
    split at h
    · cases h
    rename_i found hfound
    split at h
    · cases h
    rename_i hidden hhidden
    obtain ⟨shaped, hs, rfl⟩ := Result.map_eq_ok.mp h
    have hs := queryResult_ok hs
    rw [hshape] at hs
    obtain ⟨joined, hj, rfl⟩ := Result.map_eq_ok.mp hs
    simp only [Engine.passRead, recordsOf_foundValue] at hhidden
    have hg := hiddenEach_eq_ok_iff.mp hhidden
    have hj := Query.shapeList_eq_ok_iff.mp hj
    exact ⟨found, _, queryResult_ok hfound, forall₂_shownAs_iff.mpr ⟨hidden, joined, hg, hj, rfl⟩,
      redactAll_reshape hg.length_eq.symm hj.length_eq.symm⟩
  · rintro ⟨found, shown, hfound, hshown, rfl⟩
    obtain ⟨hidden, joined, hg, hj, rfl⟩ := forall₂_shownAs_iff.mp hshown
    rw [hfound]
    dsimp only
    rw [Engine.passRead, recordsOf_foundValue]
    dsimp only
    rw [hiddenEach_eq_ok_iff.mpr hg, hshape, Query.shapeList_eq_ok_iff.mpr hj,
      ← redactAll_reshape hg.length_eq.symm hj.length_eq.symm]
    rfl

/-- A read that goes through counts what it found, or shows each record of it. -/
theorem readFrom_ok (h : readFrom engine data users name call = .ok v) :
    ∃ d found, Directives.parse call.params = .ok d ∧ select data name call.path d = .ok found ∧
      (v = .int found.records.length ∨ ∃ shown, Engine.recordsOf v = some shown ∧
        List.Forall₂ (ShownAs engine call.caller name (related data users) d) found.records shown) := by
  obtain ⟨d, hd⟩ : ∃ d, Directives.parse call.params = .ok d := by
    cases hd : Directives.parse call.params with
    | ok d => exact ⟨d, rfl⟩
    | error f => simp [readFrom, hd, queryResult] at h
  cases hcount : d.count with
  | false =>
    obtain ⟨found, shown, hfound, hshown, rfl⟩ := (readFrom_eq_ok_iff hd hcount).mp h
    exact ⟨d, found, hd, hfound, Or.inr ⟨shown, recordsOf_reshape hshown.length_eq.symm, hshown⟩⟩
  | true =>
    unfold readFrom at h
    rw [hd] at h
    dsimp only [queryResult] at h
    split at h
    · cases h
    rename_i found hfound
    split at h
    · cases h
    · obtain ⟨shaped, hs, rfl⟩ := Result.map_eq_ok.mp h
      have hs := queryResult_ok hs
      rw [Query.shape, if_pos hcount] at hs
      cases hs
      exact ⟨d, found, hd, queryResult_ok hfound, Or.inl rfl⟩

/-! ## Both ways into an answer -/

theorem respects_of_shownAs {stored shown : Record} (h : ShownAs engine caller name resolve d stored shown) :
    Respects engine caller name stored shown := by
  obtain ⟨hidden, joined, hg, -, rfl⟩ := h
  refine ⟨Engine.admits_of_gate hg, fun field hd => ?_⟩
  rw [Engine.get?_redact, if_pos (Engine.mem_of_denies hg hd)]

theorem get?_of_shownAs {stored shown : Record} {field : String} {value : Value}
    (h : ShownAs engine caller name resolve d stored shown) (hv : shown.get? field = some value) :
    stored.get? field = some value ∨ value = .null ∨
      ∃ load related, Embeds resolve d.load (d.selected stored) load related ∧ load.as_ = field ∧
        value = .object (related.erase Query.passwordHash) := by
  obtain ⟨hidden, joined, -, hj, rfl⟩ := h
  rw [Engine.get?_redact] at hv
  split at hv
  · cases hv
  · exact (Query.get?_joinEach hj hv).imp_left fun hown => Query.get?_selected hown.2

theorem embedded_of_shownAs {stored shown related inner : Record} {load : Load}
    (h : ShownAs engine caller name resolve d stored shown)
    (he : Embeds resolve d.load (d.selected stored) load related)
    (hs : shown.get? load.as_ = some (.object inner)) : inner = related.erase Query.passwordHash := by
  obtain ⟨hidden, joined, -, hj, rfl⟩ := h
  rw [Engine.get?_redact, Query.get?_of_embeds he hj] at hs
  split at hs
  · cases hs
  · cases hs
    rfl

theorem Reading.shows_shownAs {r : Reading}
    (h : r.answer = .int r.found.records.length ∨ ∃ shown, Engine.recordsOf r.answer = some shown ∧
      List.Forall₂ (ShownAs engine caller r.name r.resolve r.directives) r.found.records shown)
    {stored shown : Record} (hs : r.Shows stored shown) :
    ShownAs engine caller r.name r.resolve r.directives stored shown := by
  unfold Shows answered at hs
  rcases h with hcount | ⟨all, hall, hf⟩
  · rw [hcount] at hs
    exact absurd (List.of_mem_zip hs).2 List.not_mem_nil
  · rw [hall] at hs
    exact List.forall₂_zip hf hs

/-- The rules hold of all records of an answer exactly if they hold of the joined ones, of
which no rule was asked. -/
theorem Reading.respects_iff {r : Reading}
    (hshows : ∀ stored shown, r.Shows stored shown → Respects engine caller r.name stored shown)
    (hjoins : ∀ c stored shown, r.Joins c stored shown → shown = stored.erase Query.passwordHash) :
    (∀ c stored shown, c ≠ usersCollection → r.Contains c stored shown →
        Respects engine caller c stored shown) ↔
      ∀ c stored shown, c ≠ usersCollection → r.Joins c stored shown →
        engine.Admits caller .read (some c) (some stored) none ∧
          ∀ field, engine.Denies caller .read (some c) (some stored) none field →
            field = Query.passwordHash ∨ stored.get? field = none := by
  constructor
  · intro h c stored shown hc hj
    obtain ⟨hadmits, hhides⟩ := h c stored shown hc (Or.inr hj)
    refine ⟨hadmits, fun field hd => ?_⟩
    by_cases hf : field = Query.passwordHash
    · exact Or.inl hf
    · have hnone := hhides field hd
      rw [hjoins c stored shown hj, Keyed.get?_erase_of_ne stored hf] at hnone
      exact Or.inr hnone
  · intro h c stored shown hc hin
    rcases hin with ⟨rfl, hs⟩ | hj
    · exact hshows stored shown hs
    · obtain ⟨hadmits, hhides⟩ := h c stored shown hc hj
      refine ⟨hadmits, fun field hd => ?_⟩
      rw [hjoins c stored shown hj]
      by_cases hf : field = Query.passwordHash
      · subst hf
        exact Keyed.get?_erase_self stored _
      · rw [Keyed.get?_erase_of_ne stored hf]
        exact (hhides field hd).resolve_left hf

end Reads

/-! ## What a read shows -/

theorem requireShortPath_eq_ok_iff {call : Call} : requireShortPath call = .ok () ↔ call.path.length ≤ 1 := by
  unfold requireShortPath
  split
  · rename_i hlong
    exact ⟨nofun, fun hshort => absurd hlong (Nat.not_lt.mpr hshort)⟩
  · rename_i hshort
    exact ⟨fun _ => Nat.not_lt.mp hshort, fun _ => rfl⟩

theorem requireCollection_of_some {call : Call} {name : String} (hc : call.collection = some name)
    (hname : name.isEmpty = false) : requireCollection call = .ok name := by
  simp only [requireCollection, hc, hname, Bool.false_eq_true, if_false]

theorem get_of_collection (engine : Engine) (data users : Collections) {call : Call} {name : String}
    (hc : requireCollection call = .ok name) :
    get engine data users call =
      match requireShortPath call with
      | .error f => .error f
      | .ok () => readFrom engine data users name call := by
  cases hpath : requireShortPath call with
  | error f => simp only [get, hpath]
  | ok => simp only [get, hpath, hc]

theorem get_eq_ok_iff {engine : Engine} {data users : Collections} {call : Call} {name : String} {v : Value}
    (hc : requireCollection call = .ok name) :
    get engine data users call = .ok v ↔
      call.path.length ≤ 1 ∧ readFrom engine data users name call = .ok v := by
  rw [get_of_collection engine data users hc, ← requireShortPath_eq_ok_iff]
  cases requireShortPath call with
  | error f => simp
  | ok => simp

/-- A read of a collection that goes through. The records found are shown under the rules for
each, and nothing stands in them but their own fields, nulls and joined records. These are
stored records without a password hash, and no rule was asked about them. So all records of
collections other than users are shown under their rules exactly if the rules leave the joined
ones as they are. -/
theorem read_respects_iff {engine : Engine} {users : Collections} {s s' : Store} {method name : String}
    {call : Call} {v : Value} (hm : Method.ofText? method = some .get)
    (hc : requireCollection call = .ok name) (h : dispatch engine users s method call = (.ok v, s')) :
    ∃ d found, Directives.parse call.params = .ok d ∧ select s.collections name call.path d = .ok found ∧
      (∀ record ∈ found.records, s.collections.Holds name record) ∧
      let r : Reading := ⟨name, related s.collections users, d, found, v⟩
      (v = .int found.records.length ∨
        ∃ shown, Engine.recordsOf v = some shown ∧ shown.length = found.records.length) ∧
      (∀ stored shown, r.Shows stored shown → Respects engine call.caller name stored shown ∧
        ∀ field value, shown.get? field = some value →
          stored.get? field = some value ∨ value = .null ∨
            ∃ c inner innerShown, r.Joins c inner innerShown ∧ value = .object innerShown) ∧
      (∀ c stored shown, r.Joins c stored shown → shown = stored.erase Query.passwordHash ∧
        (c ≠ usersCollection → s.collections.Holds c stored)) ∧
      ((∀ c stored shown, c ≠ usersCollection → r.Contains c stored shown →
          Respects engine call.caller c stored shown) ↔
        ∀ c stored shown, c ≠ usersCollection → r.Joins c stored shown →
          engine.Admits call.caller .read (some c) (some stored) none ∧
            ∀ field, engine.Denies call.caller .read (some c) (some stored) none field →
              field = Query.passwordHash ∨ stored.get? field = none) := by
  rw [dispatch_get hm] at h
  obtain ⟨d, found, hd, hfound, hv⟩ := readFrom_ok ((get_eq_ok_iff hc).mp (Prod.ext_iff.mp h).1).2
  refine ⟨d, found, hd, hfound, fun record hr => select_holds hfound hr, ?_⟩
  intro r
  have hshown : ∀ stored shown, r.Shows stored shown →
      ShownAs engine call.caller name (related s.collections users) d stored shown :=
    fun stored shown hs => Reading.shows_shownAs hv hs
  have hrespects : ∀ stored shown, r.Shows stored shown → Respects engine call.caller name stored shown :=
    fun stored shown hs => respects_of_shownAs (hshown stored shown hs)
  have herased : ∀ c stored shown, r.Joins c stored shown → shown = stored.erase Query.passwordHash := by
    rintro c stored shown ⟨outer, outerShown, load, hs, he, -, hget⟩
    exact embedded_of_shownAs (hshown outer outerShown hs) he hget
  refine ⟨?_, fun stored shown hs => ⟨hrespects stored shown hs, ?_⟩, fun c stored shown hj =>
    ⟨herased c stored shown hj, ?_⟩, Reading.respects_iff hrespects herased⟩
  · exact hv.imp_right fun ⟨shown, hrec, hall⟩ => ⟨shown, hrec, hall.length_eq.symm⟩
  · intro field value hget
    rcases get?_of_shownAs (hshown stored shown hs) hget with hown | hnull | ⟨load, inner, he, rfl, rfl⟩
    · exact Or.inl hown
    · exact Or.inr (Or.inl hnull)
    · exact Or.inr (Or.inr ⟨load.collection, inner, _, ⟨stored, shown, load, hs, he, rfl, hget⟩, rfl⟩)
  · intro hne
    obtain ⟨outer, outerShown, load, -, he, rfl, -⟩ := hj
    obtain ⟨id, hid⟩ := he.resolved
    simp only [r, related, if_neg hne] at hid
    exact Collections.holds_of_getOne hid

/-! ### A secret that nobody may read -/

def closedPin : Rule.Document :=
  .object [("secrets", .object [("*", .object [("pin", .object [(".read", .bool false)])])])]

def pinEngine : Engine :=
  ⟨.builtIn, none, Rule.builtInDefaults, [(.text "secrets", ⟨[], [("pin", [(".read", .deny)])], []⟩)]⟩

def archive : Store :=
  ⟨[("books", [("b1", .ofRecord [("ref", .text "s1")])]), ("secrets", [("s1", .ofRecord [("pin", .int 7)])])],
    .numbered [], .ofReadings 1000 []⟩

def volume : Record := [("ref", .text "s1"), ("_id", .text "b1")]

def secret : Record := [("pin", .int 7), ("_id", .text "s1")]

def readBooks : Call := ⟨⟨none, false, none⟩, some "books", [], [("load", "x=ref:secrets")], .null⟩

def secretLoad : Load := ⟨"x", "ref", "secrets"⟩

def opened : Value := .list [.object (volume ++ [("x", .object secret)])]

theorem readBooks_answer : dispatch pinEngine [] archive "GET" readBooks = (.ok opened, archive) := by cbv

/-- The book is shown under its rules. -/
theorem read_respects_iff_books :
    Method.ofText? "GET" = some .get ∧ requireCollection readBooks = .ok "books" ∧
      dispatch pinEngine [] archive "GET" readBooks = (.ok opened, archive) ∧
      ∃ d found, Directives.parse readBooks.params = .ok d ∧
        select archive.collections "books" readBooks.path d = .ok found ∧
        ∀ stored shown, (stored, shown) ∈ found.records.zip [volume ++ [("x", .object secret)]] →
          Respects pinEngine readBooks.caller "books" stored shown := by
  have hm : Method.ofText? "GET" = some .get := by decide
  have hc : requireCollection readBooks = .ok "books" := rfl
  obtain ⟨d, found, hd, hfound, -, -, hshows, -⟩ := read_respects_iff hm hc readBooks_answer
  exact ⟨hm, hc, readBooks_answer, d, found, hd, hfound, fun stored shown hs => (hshows stored shown hs).1⟩

/-- The secret in it is not: its pin is shown, though the rules hide it from everybody. -/
theorem join_shows_unreadable_field :
    let r : Reading :=
      ⟨"books", related archive.collections [], { Directives.none with load := [secretLoad] }, .many [volume], opened⟩
    Engine.ofDocument .builtIn none closedPin = .ok pinEngine ∧
      dispatch pinEngine [] archive "GET" readBooks = (.ok r.answer, archive) ∧
      Directives.parse readBooks.params = .ok r.directives ∧
      select archive.collections "books" readBooks.path r.directives = .ok r.found ∧
      r.Contains "secrets" secret secret ∧
      pinEngine.Denies readBooks.caller .read (some "secrets") (some secret) none "pin" ∧
      secret.get? "pin" = some (.int 7) := by
  intro r
  refine ⟨rfl, readBooks_answer, by cbv, by cbv, Or.inr ?_, ⟨_, .deny, rfl, rfl, rfl⟩, by decide⟩
  have hshows : r.Shows volume (volume ++ [("x", .object secret)]) := List.mem_singleton.mpr rfl
  have hembeds : Embeds r.resolve [secretLoad] volume secretLoad secret :=
    .last (by decide) rfl rfl fun _ hl => absurd hl List.not_mem_nil
  exact ⟨volume, _, secretLoad, hshows, hembeds, rfl, rfl⟩

end Service

end DocumentStore
