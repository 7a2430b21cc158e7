/-
  DocumentStore.Proofs.ListReads — an answer lines up with the records that were found.

  A read finds records, and its answer is made of what they are shown as, one for one and in their
  order. What one is shown as depends on that record alone: it is put on the selected fields, then
  joined, then the fields go whose rule denies the caller reading them in the record as it is stored,
  whatever the selection left out of it and the joins put over it (`ShownFrom`).
  - `read_redacts_each_as_stored`: every answer to a read without a count is made so.
  - `list_read_agrees`: hence a list is read exactly if each of its records can be read alone, and
    holds what is read there.
-/

import DocumentStore.Proofs.PlainRules
import DocumentStore.Proofs.ReadPolicy

namespace DocumentStore

namespace Query

/-! ## Parameters that are not given -/

section

variable {params : Params} {d : Directives}

theorem param_eq_none {name : String} (h : name ∉ params.names) : param params name = none := by
  rw [param, Keyed.get?_eq_none_iff.mpr h]

theorem count_of_parse (h : Directives.parse params = .ok d) (hcount : param params "count" = none) :
    d.count = false := by
  unfold Directives.parse at h
  split at h
  · cases h
  · obtain ⟨load, -, rfl⟩ := Result.map_eq_ok.mp h
    exact congrArg Option.isSome hcount

structure Directives.OnlyShapes (d : Directives) : Prop where
  filter : d.filter = Option.none
  sortBy : d.sortBy = []
  offset : d.offset = Option.none
  pageSize : d.pageSize = Option.none
  distinct : d.distinct = []
  count : d.count = false

theorem Directives.OnlyShapes.narrowList (h : d.OnlyShapes) (records : List Record) :
    Query.narrowList d records = .ok records := by
  simp only [Query.narrowList, filtered, paged, h.filter, h.sortBy, h.offset, h.pageSize, h.distinct]
  rfl

theorem parse_of_select_load {loads : List Load} (honly : ∀ name ∈ params.names, name = "select" ∨ name = "load")
    (hloads : Directives.parseLoads params = .ok loads) :
    ∃ d, Directives.parse params = .ok d ∧ d.OnlyShapes := by
  have hnone : ∀ {name : String}, name ≠ "select" → name ≠ "load" → param params name = none :=
    fun hs hl => param_eq_none fun hm => (honly _ hm).elim hs hl
  rw [Directives.parse, Directives.parseFilter, hnone (by decide : "where" ≠ _) (by decide)]
  dsimp only
  rw [hloads, Except.map, hnone (by decide : "sortBy" ≠ _) (by decide), hnone (by decide : "offset" ≠ _) (by decide),
    hnone (by decide : "pageSize" ≠ _) (by decide), hnone (by decide : "distinct" ≠ _) (by decide),
    hnone (by decide : "count" ≠ _) (by decide)]
  exact ⟨_, rfl, rfl, rfl, rfl, rfl, rfl, rfl⟩

end

end Query

namespace Service

open Query (Directives Found Resolver Load joinEach)
open Rule (Engine)

section

variable {engine : Engine} {users data : Collections} {s s' : Store} {method name : String} {call : Call}
  {resolve : Resolver} {d : Directives} {v : Value}

/-! ## One record -/

/-- The record is shown so: on the selected fields, joined, and without just those fields whose
rule denies the caller reading them in the record as it is stored. -/
def ShownFrom (engine : Engine) (caller : Caller) (name : String) (resolve : Resolver) (d : Directives)
    (stored shown : Record) : Prop :=
  ∃ joined, joinEach resolve d.load (d.selected stored) = .ok joined ∧
    shown = joined.drop (engine.denied caller .read (some name) (some stored) none)

theorem ShownAs.shownFrom {caller : Caller} {stored shown : Record}
    (h : ShownAs engine caller name resolve d stored shown) : ShownFrom engine caller name resolve d stored shown := by
  obtain ⟨hidden, joined, hg, hj, rfl⟩ := h
  refine ⟨joined, hj, ?_⟩
  rw [Engine.redact_eq_drop]
  refine List.filter_congr fun f _ => congrArg not (Bool.eq_iff_iff.mpr ?_)
  rw [List.contains_iff_mem, Engine.mem_hidden hg]

/-! ## What an answer is made of -/

/-- A read finds the one record that its path names, or the chosen ones of all. -/
theorem select_ok {path : List String} {found : Found} (h : select data name path d = .ok found) :
    (∃ id rest record, path = id :: rest ∧ d.filter = none ∧ data.getOne name id = .ok record ∧ found = .one record) ∨
      ∃ records kept, (d.filter ≠ none ∨ path = []) ∧ data.getAll name = .ok records ∧
        Query.narrowList d records = .ok kept ∧ found = .many kept := by
  unfold select at h
  split at h
  · rename_i id rest hfilter
    obtain ⟨record, hr, hnarrow⟩ := Result.bind_eq_ok.mp h
    cases hnarrow
    exact Or.inl ⟨id, rest, record, rfl, hfilter, hr, rfl⟩
  · rename_i hpath
    obtain ⟨records, hr, hnarrow⟩ := Result.bind_eq_ok.mp h
    obtain ⟨kept, hkept, rfl⟩ := Result.map_eq_ok.mp hnarrow
    refine Or.inr ⟨records, kept, ?_, hr, hkept, rfl⟩
    by_contra hnot
    obtain ⟨hfilter, hcons⟩ := not_or.mp hnot
    obtain ⟨id, rest, hcons⟩ := List.exists_cons_of_ne_nil hcons
    exact hpath id rest (Classical.not_not.mp hfilter) hcons

/-- A read without a count. Its answer is a list of the records that it chose of the collection,
in their order, or the one record that it names. Each is shown from what is stored: on the selected
fields, joined, and without just the fields that the rules deny the caller in the stored record. -/
theorem read_redacts_each_as_stored (hm : Method.ofText? method = some .get)
    (hc : requireCollection call = .ok name) (hcount : Query.param call.params "count" = none)
    (h : dispatch engine users s method call = (.ok v, s')) :
    ∃ d, Directives.parse call.params = .ok d ∧
      ((∃ stored chosen shown, (d.filter ≠ none ∨ call.path = []) ∧ s.collections.getAll name = .ok stored ∧
          Query.narrowList d stored = .ok chosen ∧ v = .list (shown.map .object) ∧
          List.Forall₂ (ShownFrom engine call.caller name (related s.collections users) d) chosen shown) ∨
        ∃ id stored shown, d.filter = none ∧ call.path = [id] ∧ s.collections.getOne name id = .ok stored ∧
          v = .object shown ∧ ShownFrom engine call.caller name (related s.collections users) d stored shown) := by
  rw [dispatch_get hm] at h
  obtain ⟨hshort, hread⟩ := (get_eq_ok_iff hc).mp (Prod.ext_iff.mp h).1
  obtain ⟨d, -, hd, -⟩ := readFrom_ok hread
  obtain ⟨found, shown, hfound, hshown, rfl⟩ := (readFrom_eq_ok_iff hd (Query.count_of_parse hd hcount)).mp hread
  have hshown := hshown.imp fun _ _ => ShownAs.shownFrom
  refine ⟨d, hd, ?_⟩
  rcases select_ok hfound with
    ⟨id, rest, stored, hpath, hfilter, hone, rfl⟩ | ⟨stored, chosen, hpath, hall, hchosen, rfl⟩
  · have hrest : rest = [] := List.eq_nil_of_length_eq_zero (by rw [hpath, List.length_cons] at hshort; omega)
    rw [hrest] at hpath
    obtain ⟨element, others, hsingle, hnone, rfl⟩ := List.forall₂_cons_left_iff.mp hshown
    rw [List.forall₂_nil_left_iff.mp hnone]
    exact Or.inr ⟨id, stored, element, hfilter, hpath, hone, rfl, hsingle⟩
  · exact Or.inl ⟨stored, chosen, shown, hpath, hall, hchosen, rfl, hshown⟩

/-! ### Two books, one of them the caller's -/

def ratingEngine : Engine :=
  ⟨.builtIn, none, Rule.builtInDefaults, [("books", ⟨[], [("rating", [(".read", .owner)])], []⟩)]⟩

def ratedShelf : Store :=
  ⟨[("books", [("b1", .ofRecord [("title", .text "Dune"), ("rating", .int 5), ("_ownerId", .text "u1")]),
      ("b2", .ofRecord [("title", .text "Emma"), ("rating", .int 3)])])], .numbered [], .ofReadings 1000 []⟩

def reader : Caller := ⟨some [("_id", .text "u1")], false, none⟩

def readTitles : Call := ⟨reader, some "books", [], [("select", "title,rating")], .null⟩

def titlesShown : Value :=
  .list [.object [("title", .text "Dune"), ("rating", .int 5)], .object [("title", .text "Emma")]]

/-- Only the reader's own book is shown with its rating, though the selection leaves out who owns
the books. -/
theorem read_redacts_each_as_stored_rating :
    Method.ofText? "GET" = some .get ∧ requireCollection readTitles = .ok "books" ∧
      Query.param readTitles.params "count" = none ∧
      dispatch ratingEngine [] ratedShelf "GET" readTitles = (.ok titlesShown, ratedShelf) ∧
      ∃ d stored chosen shown, Directives.parse readTitles.params = .ok d ∧
        ratedShelf.collections.getAll "books" = .ok stored ∧ Query.narrowList d stored = .ok chosen ∧
        titlesShown = .list (shown.map .object) ∧
        List.Forall₂ (ShownFrom ratingEngine reader "books" (related ratedShelf.collections []) d) chosen shown := by
  have hm : Method.ofText? "GET" = some .get := by decide
  have hc : requireCollection readTitles = .ok "books" := rfl
  have hcount : Query.param readTitles.params "count" = none := by decide
  have hanswer : dispatch ratingEngine [] ratedShelf "GET" readTitles = (.ok titlesShown, ratedShelf) := by cbv
  obtain ⟨d, hd, ⟨stored, chosen, shown, -, hall, hchosen, hv, hshown⟩ | ⟨id, _, _, -, hpath, -⟩⟩ :=
    read_redacts_each_as_stored hm hc hcount hanswer
  · exact ⟨hm, hc, hcount, hanswer, d, stored, chosen, shown, hd, hall, hchosen, hv, hshown⟩
  · cases hpath

/-! ## A list and its records -/

/-- A read by an id shows the record under it. -/
theorem readFrom_one_iff {id : String} (hd : Directives.parse call.params = .ok d) (hcount : d.count = false)
    (hfilter : d.filter = none) (hpath : call.path = [id]) :
    readFrom engine data users name call = .ok v ↔
      ∃ shown, (∃ record, data.getOne name id = .ok record ∧
        ShownAs engine call.caller name (related data users) d record shown) ∧ .object shown = v := by
  rw [readFrom_eq_ok_iff hd hcount, hpath]
  constructor
  · rintro ⟨found, shown, hfound, hshown, rfl⟩
    rcases select_ok hfound with ⟨_, _, record, hid, -, hone, rfl⟩ | ⟨_, _, hnot, -⟩
    · obtain ⟨rfl, rfl⟩ := List.cons.inj hid
      obtain ⟨element, others, hsingle, hnone, rfl⟩ := List.forall₂_cons_left_iff.mp hshown
      exact ⟨element, ⟨record, hone, hsingle⟩, by rw [List.forall₂_nil_left_iff.mp hnone]; rfl⟩
    · exact absurd hnot (by simp [hfilter])
  · rintro ⟨shown, ⟨record, hone, hshown⟩, rfl⟩
    exact ⟨.one record, [shown], by simp only [select, hfilter, hone, Except.bind, Query.narrow],
      .cons hshown .nil, rfl⟩

/-- A read that chooses nothing shows all records of the collection. -/
theorem readFrom_all_iff (hd : Directives.parse call.params = .ok d) (hshapes : d.OnlyShapes)
    (hpath : call.path = []) :
    readFrom engine data users name call = .ok v ↔
      ∃ shown, (∃ records, data.getAll name = .ok records ∧
        List.Forall₂ (ShownAs engine call.caller name (related data users) d) records shown) ∧
        .list (shown.map .object) = v := by
  rw [readFrom_eq_ok_iff hd hshapes.count, hpath]
  constructor
  · rintro ⟨found, shown, hfound, hshown, rfl⟩
    rcases select_ok hfound with ⟨_, _, _, hid, -⟩ | ⟨records, kept, -, hrecords, hkept, rfl⟩
    · cases hid
    · rw [hshapes.narrowList] at hkept
      cases hkept
      exact ⟨shown, ⟨records, hrecords, hshown⟩, rfl⟩
  · rintro ⟨shown, ⟨records, hrecords, hshown⟩, rfl⟩
    have hfound : select data name [] d = .ok (.many records) := by
      simp only [select, hshapes.filter, hrecords, Except.bind, Query.narrow, hshapes.narrowList, Except.map]
    exact ⟨.many records, shown, hfound, hshown, rfl⟩

/-- With nothing but selections and joins in the query, a list is read exactly if each record of
the collection is read by its id. Then the list holds what is read there, in the order of the
collection. -/
theorem list_read_agrees {c : Collection} {loads : List Load} (hm : Method.ofText? method = some .get)
    (hcoll : call.collection = some name) (hname : name.isEmpty = false) (hc : s.collections.get? name = some c)
    (hids : c.names.Nodup) (honly : ∀ param ∈ call.params.names, param = "select" ∨ param = "load")
    (hloads : Directives.parseLoads call.params = .ok loads) :
    let list := (dispatch engine users s method { call with path := [] }).1
    let single := fun id => (dispatch engine users s method { call with path := [id] }).1
    ((∃ v, list = .ok v) ↔ ∀ id ∈ c.names, ∃ v, single id = .ok v) ∧
      ∀ v, list = .ok v →
        ∃ elements, v = .list elements ∧ List.Forall₂ (fun id element => single id = .ok element) c.names elements := by
  intro list single
  have hrequire : ∀ path, requireCollection { call with path } = .ok name := fun _ =>
    requireCollection_of_some hcoll hname
  obtain ⟨d, hd, hshapes⟩ := Query.parse_of_select_load honly hloads
  have hd : ∀ path, Directives.parse { call with path }.params = .ok d := fun _ => hd
  have hsingle : ∀ id element, single id = .ok element ↔ ∃ shown, (∃ record, s.collections.getOne name id = .ok record ∧
      ShownAs engine call.caller name (related s.collections users) d record shown) ∧ .object shown = element := by
    intro id element
    simp only [single, dispatch_get hm]
    rw [get_eq_ok_iff (hrequire _), readFrom_one_iff (hd _) hshapes.count hshapes.filter rfl]
    exact and_iff_right (Nat.le_refl 1)
  have hlist : ∀ v, list = .ok v ↔ ∃ elements,
      List.Forall₂ (fun id element => single id = .ok element) c.names elements ∧ .list elements = v := by
    intro v
    simp only [list, dispatch_get hm]
    rw [get_eq_ok_iff (hrequire _), readFrom_all_iff (hd _) hshapes rfl]
    simp only [hsingle, Result.forall₂_comp_iff, ← Collections.getAll_eq_ok_iff hc hids]
    simp only [← List.forall₂_map_left_iff (f := Value.object), List.forall₂_eq_eq_eq]
    refine (and_iff_right (Nat.zero_le 1)).trans ?_
    constructor
    · rintro ⟨shown, h, rfl⟩
      exact ⟨_, ⟨shown, h, rfl⟩, rfl⟩
    · rintro ⟨_, ⟨shown, h, rfl⟩, rfl⟩
      exact ⟨shown, h, rfl⟩
  constructor
  · rw [← Result.exists_forall₂_iff]
    simp only [hlist]
    exact ⟨fun ⟨_, elements, h, _⟩ => ⟨elements, h⟩, fun ⟨elements, h⟩ => ⟨_, elements, h, rfl⟩⟩
  · intro v hv
    obtain ⟨elements, h, rfl⟩ := (hlist v).mp hv
    exact ⟨elements, rfl, h⟩

end

/-- The book that is listed with its secret is read so by its id. -/
theorem list_read_agrees_archive :
    Keyed.get? archive.collections (.text "books") = some [("b1", .ofRecord [("ref", .text "s1")])] ∧
      Directives.parseLoads readBooks.params = .ok [secretLoad] ∧
      (dispatch pinEngine [] archive "GET" readBooks).1 = .ok opened ∧
      (dispatch pinEngine [] archive "GET" { readBooks with path := ["b1"] }).1 =
        .ok (.object (volume ++ [("x", .object secret)])) := by
  have hc : Keyed.get? archive.collections (.text "books") = some [("b1", .ofRecord [("ref", .text "s1")])] := rfl
  have hloads : Directives.parseLoads readBooks.params = .ok [secretLoad] := by cbv
  have hm : Method.ofText? "GET" = some .get := by decide
  have hcoll : readBooks.collection = some "books" := rfl
  have hanswer : (dispatch pinEngine [] archive "GET" readBooks).1 = .ok opened := congrArg Prod.fst readBooks_answer
  obtain ⟨elements, ⟨⟩, hall⟩ :=
    (list_read_agrees hm hcoll (by decide) hc (by decide) (by decide) hloads).2 _ hanswer
  obtain ⟨hone, -⟩ := List.forall₂_cons.mp hall
  exact ⟨hc, hloads, hanswer, hone⟩

end Service

end DocumentStore
