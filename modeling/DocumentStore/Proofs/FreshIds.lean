/-
  DocumentStore.Proofs.FreshIds — which id a new record gets.

  A record that is added gets the first id of the store's source that its collection does not hold. The ids before
  it are used up, for they are those of records that are there, and those records stay as they are, in
  their places before the new one (`AddsUnder`). The source may be any stream of ids: a free one is found
  exactly if there is one, so drawing ends, and it ends in time if the stream repeats nothing from some place on
  (`add_takes_first_free_id`).
-/

import DocumentStore.Proofs.Writes

namespace DocumentStore.Store

open IdSource (Finds)

/-- To add a record, the first ids of a stream are drawn up to the one at a place, and the entry is put under that. -/
structure AddsUnder (s : Store) (name : String) (payload : Draft.Members) (e : Entry) (ids : Nat → String) (k : Nat) :
    Prop where
  /-- What is drawn in vain is the id of a record that is there. -/
  taken : ∀ i < k, ids i ∈ (s.collections.named name).names
  free : ids k ∉ (s.collections.named name).names
  answer : (s.add name (.object payload)).1 = e.read (ids k)
  /-- The entry is one more, the last of its collection. -/
  gains : s.collections.Gains (s.add name (.object payload)).2.collections name (ids k) e
  kept : ∀ id old, s.collections.stored? name id = some old →
    (s.add name (.object payload)).2.collections.stored? name id = some old
  /-- Nothing is drawn after it. -/
  supply : (s.add name (.object payload)).2.ids = s.ids.after (k + 1)

variable {s : Store} {name : String} {payload : Draft.Members} {e : Entry} {ids : Nat → String} {k : Nat}

/-- The first free id to come is the one that the record gets. -/
theorem addsUnder_of_first (hcreate : Entry.create payload = .ok e)
    (hfirst : ∀ i < k, s.ids.idAt i ∈ (s.collections.named name).names)
    (hfree : s.ids.idAt k ∉ (s.collections.named name).names) :
    s.AddsUnder name payload (e.put createdField (.int s.clock.read.1)) s.ids.idAt k := by
  have hnext : s.nextId name = (s.ids.idAt k, s.ids.after (k + 1)) := IdSource.fresh_of_first hfirst hfree
  have hadd := add_object s name payload
  rw [hcreate] at hadd
  dsimp only at hadd
  rw [hnext] at hadd
  have hgains := Collections.gains_putEntry (Keyed.get?_eq_none_iff.mpr hfree)
    (e.put createdField (.int s.clock.read.1)) (s.ids.after (k + 1)) s.clock.read.2
  exact {
    taken := hfirst
    free := hfree
    answer := by rw [hadd]
    gains := by rw [hadd]; exact hgains
    kept := fun id old hold => by rw [hadd]; exact hgains.stored?_of_some hold
    supply := by rw [hadd]; rfl }

/-- Of a stream only what is drawn counts. -/
theorem AddsUnder.of_startsWith (h : s.AddsUnder name payload e s.ids.idAt k) (hids : s.ids.StartsWith ids (k + 1)) :
    s.AddsUnder name payload e ids k := by
  have hlast : s.ids.idAt k = ids k := hids k (Nat.lt_succ_self k)
  exact {
    taken := fun i hi => hids i (Nat.lt_succ_of_lt hi) ▸ h.taken i hi
    free := hlast ▸ h.free
    answer := hlast ▸ h.answer
    gains := hlast ▸ h.gains
    kept := h.kept
    supply := h.supply }

/-- A record that is accepted is added under the first id that its collection does not hold, which the store's
source gives after as many ids as are lined up and held, at the latest. The same is so for every stream of ids that
the source may begin with: drawing ends exactly if the stream has a free id, as a stream that repeats nothing
from some place on has; and of a source that begins with the ids up to that one no more is drawn. -/
theorem add_takes_first_free_id (s : Store) (name : String) {payload : Draft.Members} {e : Entry}
    (hcreate : Entry.create payload = .ok e) :
    let held := (s.collections.named name).names
    let stored := e.put createdField (.int s.clock.read.1)
    (∃ k ≤ s.ids.queued.length + held.length, s.AddsUnder name payload stored s.ids.idAt k) ∧
    ∀ ids : Nat → String,
      ((∃ k, Finds ids held 0 k) ↔ ∃ m, ids m ∉ held) ∧
      (∀ lead, (∀ i j, ids (lead + i) = ids (lead + j) → i = j) → ∃ m ≤ lead + held.length, ids m ∉ held) ∧
      ∀ k, Finds ids held 0 k → (∃ source : IdSource, source.StartsWith ids (k + 1)) ∧
        (s.ids.StartsWith ids (k + 1) → s.AddsUnder name payload stored ids k) := by
  intro held stored
  refine ⟨?_, fun ids => ⟨IdSource.exists_finds_iff, fun lead h => IdSource.exists_free h held, fun k hk => ?_⟩⟩
  · obtain ⟨m, hm, hfree⟩ := s.ids.exists_free_id held
    obtain ⟨k, hk⟩ := IdSource.exists_finds_iff.mpr ⟨m, hfree⟩
    obtain ⟨-, hfree', hfirst⟩ := IdSource.finds_iff.mp hk
    have hle : k ≤ m := Nat.le_of_not_lt fun hlt => hfree (hfirst m (Nat.zero_le m) hlt)
    exact ⟨k, Nat.le_trans hle hm, addsUnder_of_first hcreate (fun i hi => hfirst i (Nat.zero_le i) hi) hfree'⟩
  · refine ⟨IdSource.exists_startsWith ids (k + 1), fun hids => ?_⟩
    obtain ⟨-, hfree, hfirst⟩ := IdSource.finds_iff.mp hk
    refine AddsUnder.of_startsWith (addsUnder_of_first hcreate (fun i hi => ?_) ?_) hids
    · rw [hids i (Nat.lt_succ_of_lt hi)]
      exact hfirst i (Nat.zero_le i) hi
    · rw [hids k (Nat.lt_succ_self k)]
      exact hfree

/-! ### A third book -/

def twoBooks : Collection := [("b1", .ofRecord [("title", .text "Dune")]), ("b2", .ofRecord [("title", .text "Emma")])]

def crowdedShelf : Store := ⟨[(.text "books", twoBooks)], .numbered ["b1", "b2", "fresh"], .ofReadings 1000 []⟩

def newBook : Draft.Members := [(.text "title", .text "Persuasion")]

/-- A stream that gives one id for ever in the end. -/
def stuckIds : Nat → String
  | 0 => "b1"
  | 1 => "b2"
  | _ => "fresh"

/-- The new book passes over the ids of both books that are there. The stream need not have another id to come. -/
theorem add_takes_first_free_id_third :
    Entry.create newBook = .ok (.ofRecord [("title", .text "Persuasion")]) ∧
      Finds stuckIds (crowdedShelf.collections.named "books").names 0 2 ∧
      crowdedShelf.ids.StartsWith stuckIds 3 ∧
      (crowdedShelf.add "books" (.object newBook)).1 =
        .ok [("title", .text "Persuasion"), ("_createdOn", .int 1000), ("_id", .text "fresh")] ∧
      (crowdedShelf.add "books" (.object newBook)).2.collections.named "books" = twoBooks ++
        [("fresh", .ofRecord [("title", .text "Persuasion"), ("_createdOn", .int 1000)])] ∧
      (crowdedShelf.add "books" (.object newBook)).2.ids = .numbered [] := by
  have hfinds : Finds stuckIds (crowdedShelf.collections.named "books").names 0 2 :=
    .again (by decide) (.again (by decide) (.free (by decide)))
  have hids : crowdedShelf.ids.StartsWith stuckIds 3 := by
    intro i hi
    match i, hi with
    | 0, _ => rfl
    | 1, _ => rfl
    | 2, _ => rfl
  have hcreate : Entry.create newBook = .ok (.ofRecord [("title", .text "Persuasion")]) := rfl
  obtain ⟨-, -, hfirst⟩ := (add_takes_first_free_id crowdedShelf "books" hcreate).2 stuckIds
  have hadds := (hfirst 2 hfinds).2 hids
  exact ⟨hcreate, hfinds, hids, hadds.answer, hadds.gains.here, hadds.supply⟩

end DocumentStore.Store
