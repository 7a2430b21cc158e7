/-
  DocumentStore.Proofs.HiddenField — a field that nobody may read.

  A rules document closes a field of a collection if it denies reading it under `*` and no record
  has another rule for that (`ClosesToReaders`). Then two stores that differ in this field alone, in
  what it holds or in which records have it, are read alike by every call that does not name the
  field where it chooses records or looks for what to join (`hidden_field_has_no_influence`). The
  call may ask for the field, and may join something under its name: neither is shown.
-/

import DocumentStore.Proofs.OwnersOnly
import DocumentStore.Proofs.Precedence
import DocumentStore.Proofs.TwoReads
import DocumentStore.Proofs.WritePolicy

namespace DocumentStore

namespace Rule

/-! ## A closed field -/

/-- Nobody may read the field in records of the collection: the rule for reading it denies under
`*`, and no record has a rule of its own for that. -/
structure ClosesToReaders (document : Document) (name field : String) : Prop where
  distinct : document.keysDistinct = true
  closed : document.under? [name, wildcard, field, Action.read.key] = some (.bool false)
  records : ∀ id, isActionKey id = false → id ≠ wildcard →
    ∀ rule, document.under? [name, id, field, Action.read.key] = some rule → isUnset rule = true

section Closed

variable {registry : Registry} {document : Document} {name field : String}

/-- At a closed field the document sets first that nobody may read it. -/
theorem ClosesToReaders.firstSet?_eq (h : ClosesToReaders document name field) (record : Option Record) :
    firstSet? document .read (fieldPaths name (ruledId record) field) = some (.bool false) := by
  have hclosed : document.set? [name, wildcard, field, Action.read.key] = some (.bool false) := by
    rw [Document.set?, h.closed]
    rfl
  rw [firstSet?_fieldPaths]
  refine Option.or_eq_some_iff.mpr (Or.inr ⟨?_, hclosed⟩)
  rw [Option.bind_eq_none_iff]
  intro id hid
  obtain ⟨hwild', haction⟩ := isRecordName_eq_true.mp (isRecordName_of_ruledId record id hid)
  refine Option.eq_none_iff_forall_ne_some.mpr fun rule hset => ?_
  obtain ⟨hunder, hisSet⟩ := Option.filter_eq_some_iff.mp hset
  rw [h.records id haction hwild' rule hunder] at hisSet
  cases hisSet

/-- In every record of the collection whose rules are found, reading a closed field is denied to all. -/
theorem denies_of_closesToReaders {lookup : Option Lookup} {engine : Engine}
    (hdoc : Engine.ofDocument registry lookup document = .ok engine) (h : ClosesToReaders document name field)
    (hname : name.isEmpty = false) (hwild : name ≠ wildcard) (hf : isActionKey field = false)
    (lookup' : Option Lookup) (caller : Caller) {record : Option Record} {resolved : Resolved}
    (hr : engine.rules.resolve .read (some name) record = .ok resolved) :
    Engine.Denies { engine with lookup := lookup' } caller .read (some name) record none field := by
  have hrules := rules_ofDocument hdoc h.closed
  have hempty : name ≠ "" := String.isEmpty_eq_false_iff.mp hname
  have hrel := (Rules.resolve_field_rel h.distinct hrules hempty hwild hr).2.2 field hf
  rw [h.firstSet?_eq record] at hrel
  rcases cases_of_rel hrel with ⟨hnone, -⟩ | ⟨value, rule, hvalue, hrule, hcompile⟩
  · cases hnone
  · cases hvalue
    cases hcompile
    exact ⟨resolved, .deny, hr, hrule, rfl⟩

end Closed

end Rule

/-! ## Queries that do not name a field -/

namespace Query

/-- Records are not chosen by the field, and no join starts from it or looks into the collection. -/
structure Directives.Avoids (d : Directives) (name field : String) : Prop where
  filter : ∀ f, d.filter = some f → ∀ c ∈ f.clauses, c.field ≠ field
  sortBy : ∀ key ∈ d.sortBy, key.field ≠ field
  distinct : field ∉ d.distinct
  source : ∀ load ∈ d.load, load.source ≠ field
  target : ∀ load ∈ d.load, load.collection ≠ name

theorem Directives.Avoids.choosesWithout {d : Directives} {name field : String} (h : d.Avoids name field) :
    d.ChoosesWithout (· == field) where
  filter f hf c hc := beq_eq_false_iff_ne.mpr (h.filter f hf c hc)
  sortBy key hk := beq_eq_false_iff_ne.mpr (h.sortBy key hk)
  distinct _ ho := beq_eq_false_iff_ne.mpr fun e => h.distinct (e ▸ ho)

end Query

namespace Service

open Query (Directives FindAlike Found)
open Rule (Engine Lookup)
open Store (idField ownerField)

/-- A read finds the same with and without the field in the collection, but for the field. -/
theorem select_without {field : String} (hne : field ≠ idField) {d : Directives}
    (h : d.ChoosesWithout (· == field)) (cs : Collections) (name : String) (path : List String) :
    select (cs.without name field) name path d = (select cs name path d).map (Found.map (·.drop (· == field))) := by
  have hnarrow : ∀ found : Found, Query.narrow d (found.map (·.erase field)) =
      (Query.narrow d found).map (Found.map (·.drop (· == field))) := Query.narrow_drop h
  have hall : ((cs.without name field).getAll name).bind (fun rs => Query.narrow d (.many rs)) =
      ((cs.getAll name).bind fun rs => Query.narrow d (.many rs)).map (Found.map (·.drop (· == field))) := by
    rw [Collections.getAll_without hne]
    cases cs.getAll name with
    | error f => rfl
    | ok rs => exact hnarrow (.many rs)
  have hone : ∀ id, ((cs.without name field).getOne name id).bind (fun r => Query.narrow d (.one r)) =
      ((cs.getOne name id).bind fun r => Query.narrow d (.one r)).map (Found.map (·.drop (· == field))) := by
    intro id
    rw [Collections.getOne_without hne]
    cases cs.getOne name id with
    | error f => rfl
    | ok r => exact hnarrow (.one r)
  unfold select
  split
  · exact hone _
  · exact hall

/-- A join finds the same in stores that are the same but for a field of another collection. -/
theorem findAlike_of_data {cs₁ cs₂ : Collections} {name field collection : String}
    (hsame : cs₁.without name field = cs₂.without name field) (hne : collection ≠ name) (users : Collections) :
    FindAlike (related cs₁ users) (related cs₂ users) collection := by
  intro id
  unfold related
  split
  · rfl
  · rw [← Collections.getOne_without_of_ne hne cs₁ field, hsame, Collections.getOne_without_of_ne hne]

/-- A field that nobody may read has no influence on reads that do not name it. Two stores that
differ in such a field of a collection alone give any caller the same answer, or the same
failure. -/
theorem hidden_field_has_no_influence {registry : Rule.Registry} {lookup : Option Lookup} {document : Rule.Document}
    {engine : Engine} {name field : String} (hdoc : Engine.ofDocument registry lookup document = .ok engine)
    (hplain : engine.rules.Plain) (hclosed : Rule.ClosesToReaders document name field)
    (hname : name.isEmpty = false) (hwild : name ≠ Rule.wildcard) (hid : field ≠ idField)
    (howner : field ≠ ownerField) (hpoint : Rule.isActionKey field = false) {s₁ s₂ : Store}
    (hsame : s₁.collections.without name field = s₂.collections.without name field) (users : Collections)
    (lookup₁ lookup₂ : Option Lookup) {method : String} (hm : Method.ofText? method = some .get) {call : Call}
    (hc : call.collection = some name)
    (havoids : ∀ d, Directives.parse call.params = .ok d → d.Avoids name field) :
    (dispatch { engine with lookup := lookup₁ } users s₁ method call).1 =
      (dispatch { engine with lookup := lookup₂ } users s₂ method call).1 := by
  have hkept : ∀ {other : String}, field ≠ other → (other == field) = false := fun hne =>
    beq_eq_false_iff_ne.mpr (Ne.symm hne)
  have hread : readFrom { engine with lookup := lookup₁ } s₁.collections users name call =
      readFrom { engine with lookup := lookup₂ } s₂.collections users name call := by
    refine readFrom_alike (p := (· == field)) (fun d hd => ?_) (fun d hd load hl => ?_) (fun r₁ r₂ h => ?_)
      fun record hidden hg other ho => ?_
    · have hd := (havoids d hd).choosesWithout
      rw [← select_without hid hd, hsame, select_without hid hd]
    · have hd := havoids d hd
      exact ⟨findAlike_of_data hsame (hd.target load hl) users, beq_eq_false_iff_ne.mpr (hd.source load hl)⟩
    · have hkey : Keyed.get? r₁ "_id" = Keyed.get? r₂ "_id" := Keyed.get?_congr h (hkept hid)
      have hids : Record.idOf (some r₁) = Record.idOf (some r₂) := by
        simp only [Record.idOf, Option.bind_some, hkey]
      exact Engine.gate_alike hplain (.refl _) lookup₁ lookup₂ hids (Keyed.get?_congr h (hkept howner)) none
    · obtain rfl : other = field := eq_of_beq ho
      obtain ⟨resolved, hr, -⟩ := Engine.gate_ok hg
      exact Engine.mem_of_denies hg (Rule.denies_of_closesToReaders hdoc hclosed hname hwild hpoint lookup₂ _ hr)
  rw [dispatch_get hm, dispatch_get hm]
  dsimp only
  have hc := requireCollection_of_some hc hname
  rw [get_of_collection _ _ _ hc, get_of_collection _ _ _ hc, hread]

/-! ### A book with and without a rating -/

def unratedShelf : Store :=
  ⟨[("books", [("b1", .ofRecord [("title", .text "Dune")])])], .numbered [], .ofReadings 1000 []⟩

def readRatings : Call := ⟨clerk, some "books", [], [("select", "rating,title")], .null⟩

theorem closedRating_closes : Rule.ClosesToReaders closedRating "books" "rating" where
  distinct := by decide
  closed := rfl
  records := by
    intro id _ hwild rule hrule
    have hnone : closedRating.under? ["books", id] = none := by
      refine (Rule.Document.under?_append closedRating ["books"] [id]).trans ?_
      show Rule.Document.under? (.object [(.text Rule.wildcard, _)]) [id] = none
      rw [Rule.Document.under?_singleton, Rule.Document.members, Keyed.get?_cons, Key.text_beq_text,
        if_neg (by simpa using Ne.symm hwild)]
      rfl
    have hunder := Rule.Document.under?_append closedRating ["books", id] ["rating", Rule.Action.read.key]
    rw [hnone] at hunder
    cases hunder.symm.trans hrule

theorem readRatings_parse : Directives.parse readRatings.params =
    .ok { Directives.none with select := ["rating", "title"] } := rfl

/-- The clerk asks for the rating by its name, but has nothing chosen by it. -/
theorem readRatings_avoids {d : Directives} (hd : Directives.parse readRatings.params = .ok d) :
    d.Avoids "books" "rating" := by
  cases readRatings_parse.symm.trans hd
  constructor
  · intro f hf
    cases hf
  · exact List.forall_mem_nil _
  · exact List.not_mem_nil
  · exact List.forall_mem_nil _
  · exact List.forall_mem_nil _

/-- The clerk, who may not read ratings, is shown the same whether or not the book has one. -/
theorem hidden_field_has_no_influence_rating :
    Engine.ofDocument .builtIn none closedRating = .ok closedEngine ∧
      Rule.ClosesToReaders closedRating "books" "rating" ∧
      shelf.collections.without "books" "rating" = unratedShelf.collections.without "books" "rating" ∧
      shelf.collections.getOne "books" "b1" ≠ unratedShelf.collections.getOne "books" "b1" ∧
      (dispatch closedEngine [] unratedShelf "GET" readRatings).1 = .ok (.list [.object [("title", .text "Dune")]]) ∧
      (dispatch closedEngine [] shelf "GET" readRatings).1 = .ok (.list [.object [("title", .text "Dune")]]) := by
  have hanswer : (dispatch closedEngine [] unratedShelf "GET" readRatings).1 =
      .ok (.list [.object [("title", .text "Dune")]]) := by cbv
  have hsame : shelf.collections.without "books" "rating" = unratedShelf.collections.without "books" "rating" := rfl
  refine ⟨closedEngine_of_rules, closedRating_closes, hsame, by decide, hanswer, ?_⟩
  rw [← hanswer]
  exact hidden_field_has_no_influence closedEngine_of_rules (Rule.plain_ofDocument rfl closedEngine_of_rules)
    closedRating_closes (by decide) (by decide) (by decide) (by decide) (by decide) hsame [] none none (by decide) rfl
    fun _ hd => readRatings_avoids hd

end Service

end DocumentStore
