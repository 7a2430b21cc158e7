/-
  DocumentStore.Proofs.Counts — a count is the number of records that the same read gives without it.

  Both reads ask for the same but for the count, so they find the same records, and the rules let both pass or
  neither (`readFrom_cases`). Then one counts what it found and the other shapes it. Selecting and joining give
  one record for each that was found, and hiding takes fields away but no record, so the number is that of the
  answer. Only joins can fail in shaping, for a source without a text or as the look-up of a related record does;
  no rule is asked any more. So the two are refused alike, and a join that fails is the one thing that a count
  does not fail with (`count_agrees`).
-/

import DocumentStore.Proofs.ListReads
import DocumentStore.Proofs.QueryFaults

namespace DocumentStore

namespace Query

section Counting

variable {plain counted : Params}

structure Counts (plain counted : Params) : Prop where
  without : param plain "count" = none
  given : (param counted "count").isSome = true
  rest : ∀ name, name ≠ "count" → param counted name = param plain name

/-- A count is taken out of a query, and put into it. -/
theorem counts_put (params : Params) {text : String} (h : text.isEmpty = false) :
    Counts (Keyed.erase params "count") (Keyed.put params "count" text) := by
  constructor
  · rw [param, Keyed.get?_erase_self]
  · rw [param, Keyed.get?_put_self params (beq_self_eq_true "count")]
    simp only [h, Bool.false_eq_true, if_false, Option.isSome_some]
  · intro name hname
    rw [param, param, Keyed.get?_put_of_ne params hname, Keyed.get?_erase_of_ne params hname]

theorem Counts.parse_eq (h : Counts plain counted) :
    Directives.parse counted = (Directives.parse plain).map fun d => { d with count := true } := by
  have hfilter : Directives.parseFilter counted = Directives.parseFilter plain := by
    rw [Directives.parseFilter, Directives.parseFilter, h.rest "where" (by decide)]
  have hloads : Directives.parseLoads counted = Directives.parseLoads plain := by
    rw [Directives.parseLoads, Directives.parseLoads, h.rest "load" (by decide)]
  unfold Directives.parse
  rw [hfilter, hloads, h.rest "sortBy" (by decide), h.rest "offset" (by decide), h.rest "pageSize" (by decide),
    h.rest "distinct" (by decide), h.rest "select" (by decide), h.given]
  cases Directives.parseFilter plain with
  | error f => rfl
  | ok filter =>
    cases Directives.parseLoads plain with
    | error f => rfl
    | ok loads => rfl

end Counting

end Query

namespace Service

open Query (Directives Found Resolver LoadFails)
open Rule (Engine)

section Counting

variable {engine : Engine} {data users : Collections} {s : Store} {method name : String} {call : Call}
  {counted : Query.Params} {d : Directives} {found : Found} {hidden : List (List String)} {v : Value} {f : Failure}

/-- A read and the same read with a count fail alike, or they find the same records and let them pass alike. Then
one counts them, whatever becomes of the other. -/
theorem readFrom_cases (engine : Engine) (data users : Collections) (name : String)
    (hcounts : Query.Counts call.params counted) :
    (∃ f, readFrom engine data users name call = .error f ∧
      readFrom engine data users name { call with params := counted } = .error f) ∨
    ∃ d found hidden, Directives.parse call.params = .ok d ∧ select data name call.path d = .ok found ∧
      hidden.length = found.records.length ∧
      readFrom engine data users name { call with params := counted } = .ok (.int found.records.length) ∧
      readFrom engine data users name call =
        (queryResult (Query.shape d (some (related data users)) found)).map fun shaped =>
          Engine.redactAll hidden shaped.toValue := by
  unfold readFrom
  rw [hcounts.parse_eq]
  cases hparse : Directives.parse call.params with
  | error f => exact Or.inl ⟨_, rfl, rfl⟩
  | ok d =>
    have hselect : select data name call.path { d with count := true } = select data name call.path d := rfl
    dsimp only [Except.map, queryResult]
    rw [hselect]
    cases hfound : select data name call.path d with
    | error f => exact Or.inl ⟨_, rfl, rfl⟩
    | ok found =>
      dsimp only [queryResult]
      cases hpass : engine.passRead call.caller (some name) (foundValue found) with
      | error f => exact Or.inl ⟨_, rfl, rfl⟩
      | ok hidden =>
        rw [Engine.passRead, recordsOf_foundValue] at hpass
        have hlength := (hiddenEach_eq_ok_iff.mp hpass).length_eq.symm
        exact Or.inr ⟨d, found, hidden, rfl, hfound, hlength, rfl, rfl⟩

/-- With no count in them, the directives show each record that is found, or fail by a join of one. -/
theorem shape_cases (hcount : d.count = false) (hlength : hidden.length = found.records.length) :
    let shaped := (queryResult (Query.shape d (some (related data users)) found)).map fun shaped =>
      Engine.redactAll hidden shaped.toValue
    (∃ shown, shown.length = found.records.length ∧ shaped = .ok (found.reshape shown).toValue) ∨
      ∃ g, LoadFails (related data users) d found g ∧ shaped = .error (asQueryFailure g) := by
  intro shaped
  have hshape : Query.shape d (some (related data users)) found =
      (Query.shapeList d (some (related data users)) found.records).map found.reshape := by
    rw [Query.shape, if_neg (by simp [hcount])]
  simp only [shaped, hshape]
  cases hlist : Query.shapeList d (some (related data users)) found.records with
  | error g => exact Or.inr ⟨g, Query.shapeList_error hlist, rfl⟩
  | ok joined =>
    have hjoined := (Query.shapeList_eq_ok_iff.mp hlist).length_eq.symm
    refine Or.inl ⟨List.zipWith Engine.redact hidden joined, ?_, ?_⟩
    · rw [List.length_zipWith, hlength, hjoined, Nat.min_self]
    · rw [← redactAll_reshape hlength hjoined]
      rfl

/-- A read that goes through gives as many records as it finds, one by itself or all in a list. -/
theorem toValue_reshape {shown : List Record} (h : shown.length = found.records.length) :
    (found.reshape shown).toValue = .list (shown.map .object) ∨
      ∃ record, shown = [record] ∧ (found.reshape shown).toValue = .object record := by
  cases found with
  | many records => exact Or.inl rfl
  | one record =>
    obtain ⟨shown, rfl⟩ := List.length_eq_one_iff.mp h
    exact Or.inr ⟨shown, rfl, rfl⟩

inductive ComesOut (data users : Collections) (name : String) (call : Call) :
    Except Failure Value → Except Failure Value → Prop
  | fail (f : Failure) : ComesOut data users name call (.error f) (.error f)
  | succeed (found : Found) (shown : List Record) (h : shown.length = found.records.length) :
      ComesOut data users name call (.ok (found.reshape shown).toValue) (.ok (.int found.records.length))
  | load {d : Directives} {found : Found} {g : Failure} (hd : Directives.parse call.params = .ok d)
      (hfound : select data name call.path d = .ok found) (h : LoadFails (related data users) d found g) :
      ComesOut data users name call (.error (asQueryFailure g)) (.ok (.int found.records.length))

theorem readFrom_comesOut (hcounts : Query.Counts call.params counted) :
    ComesOut data users name call (readFrom engine data users name call)
      (readFrom engine data users name { call with params := counted }) := by
  rcases readFrom_cases engine data users name hcounts with
    ⟨f, hread, hcount⟩ | ⟨d, found, hidden, hd, hfound, hlength, hcount, hread⟩
  · rw [hread, hcount]
    exact .fail f
  · rw [hread, hcount]
    rcases shape_cases (Query.count_of_parse hd hcounts.without) hlength with ⟨shown, hshown, hok⟩ | ⟨g, hfails, herror⟩
    · rw [hok]
      exact .succeed found shown hshown
    · rw [herror]
      exact .load hd hfound hfails

/-- A join that fails is no refusal for who is asking. -/
theorem not_refused_of_load {g : Failure} (h : LoadFails (related data users) d found g) :
    ¬ ((asQueryFailure g).refusal? = some .authorization ∨ (asQueryFailure g).refusal? = some .credential) := by
  obtain ⟨record, -, hbreaks⟩ := h
  rcases hbreaks.cause with ⟨name, id, hlookup⟩ | ⟨u, rfl⟩
  · rcases Collections.getOne_error_cases hlookup with ⟨what, rfl⟩ | ⟨why, rfl⟩
    · simp [asQueryFailure, Failure.refusal?]
    · simp [asQueryFailure, Failure.refusal?]
  · cases u <;> decide

theorem dispatch_comesOut (hm : Method.ofText? method = some .get) (hc : requireCollection call = .ok name)
    (hcounts : Query.Counts call.params counted) :
    ComesOut s.collections users name call (dispatch engine users s method call).1
      (dispatch engine users s method { call with params := counted }).1 := by
  have hc' : requireCollection { call with params := counted } = .ok name := hc
  rw [dispatch_get hm, dispatch_get hm]
  dsimp only
  rw [get_of_collection engine s.collections users hc, get_of_collection engine s.collections users hc']
  cases hshort : requireShortPath call with
  | error f =>
    have hshort' : requireShortPath { call with params := counted } = .error f := hshort
    rw [hshort']
    exact .fail f
  | ok =>
    have hshort' : requireShortPath { call with params := counted } = .ok () := hshort
    rw [hshort']
    exact readFrom_comesOut hcounts

/-- If a read goes through, the same read with a count gives the number of records in its answer. If it is refused
for who is asking, the count is refused so too. A count that fails does so as the read does; and where the read
fails and the count does not, a join has failed, and the count is of the records found. -/
theorem count_agrees (hm : Method.ofText? method = some .get) (hc : requireCollection call = .ok name)
    (hcounts : Query.Counts call.params counted) :
    let read := (dispatch engine users s method call).1
    let count := (dispatch engine users s method { call with params := counted }).1
    (∀ v, read = .ok v → ∃ shown : List Record, count = .ok (.int shown.length) ∧
      (v = .list (shown.map .object) ∨ ∃ record, shown = [record] ∧ v = .object record)) ∧
    (∀ f, read = .error f → f.refusal? = some .authorization ∨ f.refusal? = some .credential → count = .error f) ∧
    (∀ f, count = .error f → read = .error f) ∧
    ∀ f v, read = .error f → count = .ok v → ∃ d found g, Directives.parse call.params = .ok d ∧
      select s.collections name call.path d = .ok found ∧ LoadFails (related s.collections users) d found g ∧
      f = asQueryFailure g ∧ v = .int found.records.length := by
  have hcomes : ComesOut s.collections users name call (dispatch engine users s method call).1
      (dispatch engine users s method { call with params := counted }).1 := dispatch_comesOut hm hc hcounts
  generalize (dispatch engine users s method call).1 = read at hcomes ⊢
  generalize (dispatch engine users s method { call with params := counted }).1 = count at hcomes ⊢
  cases hcomes with
  | fail f =>
    exact ⟨nofun, fun g hg _ => hg, fun g hg => hg, nofun⟩
  | succeed found shown hlength =>
    refine ⟨fun v hv => ⟨shown, by rw [hlength], ?_⟩, nofun, nofun, nofun⟩
    rw [← Except.ok.inj hv]
    exact toValue_reshape hlength
  | load hd hfound hfails =>
    rename_i d found g
    refine ⟨nofun, fun f hf hrefused => ?_, nofun, fun f v hf hv => ?_⟩
    · rw [← Except.error.inj hf] at hrefused
      exact absurd hrefused (not_refused_of_load hfails)
    · exact ⟨d, found, g, hd, hfound, hfails, (Except.error.inj hf).symm, (Except.ok.inj hv).symm⟩

end Counting

/-! ### The books with what they refer to, counted -/

def countBooks : Call := { readBooks with params := Keyed.put readBooks.params "count" "true" }

/-- One book is read, together with a secret, and one book is counted. -/
theorem count_agrees_archive :
    Method.ofText? "GET" = some .get ∧ requireCollection readBooks = .ok "books" ∧
      Query.Counts readBooks.params countBooks.params ∧
      (dispatch pinEngine [] archive "GET" readBooks).1 = .ok opened ∧
      (dispatch pinEngine [] archive "GET" countBooks).1 = .ok (.int 1) := by
  have hm : Method.ofText? "GET" = some .get := by decide
  have hc : requireCollection readBooks = .ok "books" := rfl
  have hcounts : Query.Counts readBooks.params countBooks.params :=
    Query.counts_put readBooks.params (by decide : "true".isEmpty = false)
  have hanswer : (dispatch pinEngine [] archive "GET" readBooks).1 = .ok opened := congrArg Prod.fst readBooks_answer
  obtain ⟨hagree, -⟩ := count_agrees hm hc hcounts
  obtain ⟨shown, hcount, hlist | ⟨record, -, hone⟩⟩ := hagree opened hanswer
  · have hlength : 1 = shown.length := by simpa using congrArg List.length (Value.list.inj hlist)
    rw [← hlength] at hcount
    exact ⟨hm, hc, hcounts, hanswer, hcount⟩
  · cases hone

end Service

end DocumentStore
