/-
  DocumentStore.Proofs.Pages — the pages of a list are the list.

  Filter and order do not look at offset and page size, so every page is cut out of one row of records
  (`pageOf_eq`), however often that row is made anew, and where the row cannot be sorted there are no pages. An
  offset and a size that are no negative numbers cut a stretch out of it, and stretches of one size, each starting
  where the one before it ends, give the row back from its front (`flatMap_stretches`).

  So the pages up to the first empty one, put one behind the other, are all the records that the filter
  accepts; each of these is on one page, and only the last page may hold fewer than the others
  (`pages_partition`).
-/

import DocumentStore.Proofs.SortOrder
import DocumentStore.Query.Shape

namespace DocumentStore

namespace Query

section Pages

variable {d : Directives} {size k : Nat} {records : List Record}

def allOf (d : Directives) (records : List Record) : Except Failure (List Record) :=
  (narrow { d with offset := none, pageSize := none } (.many records)).map Found.records

/-- The records of page `k`, counted from zero, where a page has `size` records. -/
def pageOf (d : Directives) (size k : Nat) (records : List Record) : Except Failure (List Record) :=
  (narrow { d with offset := some ((k * size : Nat) : Int), pageSize := some (size : Int) } (.many records)).map
    Found.records

theorem position_natCast (length n : Nat) : position length n = n := by
  rw [position, if_neg (Int.not_lt.mpr (Int.natCast_nonneg n)), Int.toNat_natCast]

/-- Whatever the page, it is cut out of what the filter accepts, sorted. -/
theorem narrow_paged (hd : d.distinct = []) (offset pageSize : Option Int) (records : List Record) :
    (narrow { d with offset, pageSize } (.many records)).map Found.records =
      (sortRecords d.sortBy (filtered d records)).map (paged { d with offset, pageSize }) := by
  have hfiltered : filtered { d with offset, pageSize } records = filtered d records := rfl
  rw [narrow, narrowList, hfiltered]
  dsimp only
  cases sortRecords d.sortBy (filtered d records) with
  | error f => rfl
  | ok sorted =>
    rw [hd]
    rfl

theorem allOf_eq (hd : d.distinct = []) (records : List Record) :
    allOf d records = sortRecords d.sortBy (filtered d records) := by
  rw [allOf, narrow_paged hd]
  cases sortRecords d.sortBy (filtered d records) <;> rfl

/-- A page is a stretch of the row of all records. -/
theorem pageOf_eq (hd : d.distinct = []) :
    pageOf d size k records = (allOf d records).map fun all => (all.drop (k * size)).take size := by
  have hpaged : ∀ all : List Record, paged { d with offset := some ((k * size : Nat) : Int), pageSize := some (size : Int) }
      all = (all.drop (k * size)).take size := fun all => by
    simp only [paged, dropTo, takePage, position_natCast]
  rw [pageOf, narrow_paged hd, allOf_eq hd]
  exact congrArg (fun cut => Except.map cut (sortRecords d.sortBy (filtered d records))) (funext hpaged)

theorem flatMap_stretches {α : Type} (size count : Nat) (xs : List α) :
    (List.range count).flatMap (fun k => (xs.drop (k * size)).take size) = xs.take (count * size) := by
  induction count with
  | zero => simp
  | succ count ih =>
    rw [List.range_succ, List.flatMap_append, ih, List.flatMap_singleton, Nat.succ_mul, List.take_add]

/-- How many stretches of a size a row of some length has, is the number of the first one beyond its end. -/
theorem div_le_iff_le_mul (hsize : 1 ≤ size) (length k : Nat) :
    (length + size - 1) / size ≤ k ↔ length ≤ k * size := by
  rw [← Nat.lt_succ_iff, Nat.div_lt_iff_lt_mul hsize, Nat.succ_mul]
  omega

/-- Where the records cannot be sorted no page is found. Else they are the ones that the filter accepts, and from
some number on all pages are empty, while those before it, one behind the other, are all the records. Each but the
last of these pages has as many records as a page holds, and a record of the row is on the one page, and in the one
place on it, that its position says. -/
theorem pages_partition (hd : d.distinct = []) (hsize : 1 ≤ size) (records : List Record) :
    (∀ f, allOf d records = .error f → ∀ k, pageOf d size k records = .error f) ∧
    ∀ all, allOf d records = .ok all → all.Perm (filtered d records) ∧
      ∃ (pages : Nat → List Record) (count : Nat), (∀ k, pageOf d size k records = .ok (pages k)) ∧
        (∀ k, pages k = [] ↔ count ≤ k) ∧
        (List.range count).flatMap pages = all ∧
        (∀ k, k + 1 < count → (pages k).length = size) ∧
        ∀ k i, (pages k)[i]? = if i < size then all[k * size + i]? else none := by
  refine ⟨fun f hf k => by rw [pageOf_eq hd, hf]; rfl, fun all hall => ?_⟩
  have hcount := div_le_iff_le_mul hsize all.length
  have hsorted := (allOf_eq hd records).symm.trans hall
  refine ⟨perm_sortRecords hsorted, fun k => (all.drop (k * size)).take size, (all.length + size - 1) / size,
    fun k => by rw [pageOf_eq hd, hall]; rfl, fun k => ?_, ?_, fun k hk => ?_, fun k i => ?_⟩
  · rw [hcount, List.take_eq_nil_iff, List.drop_eq_nil_iff]
    omega
  · rw [flatMap_stretches, List.take_of_length_le ((hcount _).mp (Nat.le_refl _))]
  · have hfull : k * size + size < all.length := by
      rw [← Nat.succ_mul, ← Nat.not_le, ← hcount, Nat.not_le]
      exact hk
    rw [List.length_take, List.length_drop]
    omega
  · rw [List.getElem?_take, List.getElem?_drop]

end Pages

/-! ### Books by title, two on a page -/

def earlyByTitle : Directives :=
  { Directives.none with
    filter := some ⟨.and, [⟨"title", .below, .text "F"⟩]⟩
    sortBy := [⟨"title", false⟩] }

theorem pages_partition_books :
    earlyByTitle.distinct = [] ∧ 1 ≤ 2 ∧ ∃ all, allOf earlyByTitle ratedBooks = .ok all ∧
      all.Perm (filtered earlyByTitle ratedBooks) ∧
      ∃ (pages : Nat → List Record) (count : Nat), (∀ k, pageOf earlyByTitle 2 k ratedBooks = .ok (pages k)) ∧
        (∀ k, pages k = [] ↔ count ≤ k) ∧
        (List.range count).flatMap pages = all ∧
        (∀ k, k + 1 < count → (pages k).length = 2) ∧
        ∀ k i, (pages k)[i]? = if i < 2 then all[k * 2 + i]? else none := by
  obtain ⟨-, hpages⟩ := pages_partition (d := earlyByTitle) rfl (show 1 ≤ 2 by decide) ratedBooks
  have hwritable : ∀ r ∈ filtered earlyByTitle ratedBooks, (r.value "title").unwritable? = none := by decide +kernel
  have hcompares : ∀ key ∈ earlyByTitle.sortBy, (filtered earlyByTitle ratedBooks).Pairwise key.Compares :=
    List.forall_mem_singleton.mpr
      (List.pairwise_of_forall_mem_list fun a ha b hb => Or.inr ⟨hwritable a ha, hwritable b hb⟩)
  obtain ⟨all, hall⟩ := exists_sortRecords hcompares
  have hall : allOf earlyByTitle ratedBooks = .ok all := (allOf_eq rfl ratedBooks).trans hall
  exact ⟨rfl, by decide, all, hall, hpages all hall⟩

end Query

end DocumentStore
