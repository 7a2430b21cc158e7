/-
  DocumentStore.Proofs.PageBounds — which stretch of a list a page is, for any two texts.

  An offset and a page size are read from texts, and any whole number can come out of a text. A page is
  asked for by how many records to pass over and how many to give then, and a negative number asks for
  none (`asked`). But one below zero is taken to count from the end of the list: an offset leads to the
  last records, and a size leaves so many out at the end (`taken`).

  The two come to the same page if no number is negative. Where one is, they do by chance: if the size
  leaves nothing behind the offset, or the offset leads to the front of the list or beyond it
  (`page_as_asked`).
-/

import DocumentStore.Proofs.Join
import DocumentStore.Proofs.Pages

namespace DocumentStore

namespace Query

/-- The positions in a list from `first` on that come before `last`. -/
structure Stretch where
  first : Nat
  last : Nat
  deriving DecidableEq, Repr

def Stretch.of (s : Stretch) (records : List Record) : List Record := records.extract s.first s.last

/-- What a page is asked for to be: so many records passed over, and so many given, all if it is not said how
many. -/
def asked (offset : Int) (size : Option Int) (length : Nat) : Stretch :=
  ⟨offset.toNat, size.elim length fun size => offset.toNat + size.toNat⟩

/-- What a page is taken to be, where a negative number counts from the end. -/
def taken (offset : Int) (size : Option Int) (length : Nat) : Stretch :=
  let first := position length offset
  ⟨first, size.elim length fun size => if size < 0 then position length size else first + size.toNat⟩

structure IsHonoured (offset : Int) (size : Option Int) (length : Nat) : Prop where
  /-- A size below zero leaves nothing behind the offset. -/
  void : ∀ n, size = some n → n < 0 → (length : Int) + n ≤ position length offset
  /-- With any other size an offset below zero leads to the front of the list, or beyond it. -/
  front : (∀ n, size = some n → 0 ≤ n) → offset < 0 → (length : Int) + offset ≤ 0

section Stretches

variable {offset n : Int} {size : Option Int} {length : Nat} {records : List Record} {a b : Stretch}

theorem position_of_neg (h : n < 0) : position length n = ((length : Int) + n).toNat := if_pos h

theorem position_of_nonneg (h : 0 ≤ n) : position length n = n.toNat := if_neg (Int.not_lt.mpr h)

theorem Stretch.getElem?_of (a : Stretch) (records : List Record) (i : Nat) :
    (a.of records)[i]? = if i < a.last - a.first then records[a.first + i]? else none := by
  rw [of, List.extract_eq_take_drop, List.getElem?_take, List.getElem?_drop]

theorem Stretch.of_eq_nil_iff : a.of records = [] ↔ min a.last records.length ≤ a.first := by
  rw [of, List.extract_eq_take_drop, List.take_eq_nil_iff, List.drop_eq_nil_iff]
  omega

/-- Stretches of unlike records that have a record each start with the same one, if they are the same. -/
theorem Stretch.first_eq (hunlike : records.Nodup) (hb : b.of records ≠ []) (h : a.of records = b.of records) :
    a.first = b.first := by
  have ha : a.of records ≠ [] := h ▸ hb
  rw [ne_eq, of_eq_nil_iff] at ha hb
  have hfirst := congrArg (·[0]?) h
  simp only [getElem?_of, Nat.add_zero] at hfirst
  rw [if_pos (by omega), if_pos (by omega)] at hfirst
  exact (List.getElem?_inj (by omega) hunlike).mp hfirst

/-- Dropping and taking from either end leaves what the page is taken to be. -/
theorem takePage_dropTo (offset : Int) (size : Option Int) (records : List Record) :
    size.elim (dropTo offset records) (takePage · (dropTo offset records)) =
      (taken offset size records.length).of records := by
  cases size with
  | none =>
    rw [Stretch.of, List.extract_eq_take_drop, taken, Option.elim_none, List.take_of_length_le (by simp)]
    rfl
  | some size =>
    simp only [Option.elim_some, takePage, dropTo, taken, Stretch.of, List.extract_eq_take_drop, List.length_drop]
    by_cases hsize : size < 0
    · rw [if_pos hsize, position_of_neg hsize, position_of_neg hsize]
      by_cases hfirst : position records.length offset ≤ records.length
      · congr 1
        omega
      · rw [List.drop_of_length_le (by omega), List.take_nil, List.take_nil]
    · rw [if_neg hsize, position_of_nonneg (by omega), Nat.add_sub_cancel_left]

/-- Stretches without a size below zero are the same, if they start in the same place. -/
theorem taken_eq_asked (hsize : ∀ n, size = some n → 0 ≤ n) (hfirst : position length offset = offset.toNat) :
    taken offset size length = asked offset size length := by
  cases size with
  | none => rw [taken, asked, hfirst]; rfl
  | some n =>
    have hn : ¬ n < 0 := Int.not_lt.mpr (hsize n rfl)
    simp only [taken, asked, hfirst, Option.elim_some, if_neg hn]

/-- A page with a size below zero has no record exactly if the size leaves nothing behind the offset. -/
theorem taken_eq_nil_iff (hn : n < 0) :
    (taken offset (some n) records.length).of records = [] ↔
      (records.length : Int) + n ≤ position records.length offset := by
  rw [Stretch.of_eq_nil_iff]
  simp only [taken, Option.elim_some, if_pos hn, position_of_neg hn]
  omega

theorem asked_eq_nil (hn : n < 0) : (asked offset (some n) length).of records = [] := by
  rw [Stretch.of_eq_nil_iff]
  simp only [asked, Option.elim_some]
  omega

/-- With numbers that are honoured, a page is taken to be what it is asked for to be. -/
theorem IsHonoured.taken_of (h : IsHonoured offset size records.length) :
    (taken offset size records.length).of records = (asked offset size records.length).of records := by
  by_cases hsize : ∀ n, size = some n → 0 ≤ n
  · have hfront := h.front hsize
    have hfirst : position records.length offset = offset.toNat := by
      unfold position
      split <;> omega
    rw [taken_eq_asked hsize hfirst]
  · obtain ⟨n, rfl, hn⟩ : ∃ n, size = some n ∧ n < 0 := by simpa using hsize
    rw [asked_eq_nil hn, taken_eq_nil_iff hn]
    exact h.void n rfl hn

/-- Of unlike records a page is taken to be what it is asked for to be with no other numbers. -/
theorem isHonoured_of_taken (hunlike : records.Nodup) (hzero : size ≠ some 0)
    (h : (taken offset size records.length).of records = (asked offset size records.length).of records) :
    IsHonoured offset size records.length := by
  constructor
  · rintro n rfl hn
    rwa [asked_eq_nil hn, taken_eq_nil_iff hn] at h
  · intro hsize hoffset
    by_contra hfront
    have hasked : (asked offset size records.length).of records ≠ [] := by
      rw [ne_eq, Stretch.of_eq_nil_iff, asked]
      cases size with
      | none =>
        dsimp only [Option.elim_none]
        omega
      | some n =>
        have hn := hsize n rfl
        have hpos : n ≠ 0 := fun he => hzero (congrArg some he)
        dsimp only [Option.elim_some]
        omega
    have hfirst := Stretch.first_eq hunlike hasked h
    simp only [taken, asked, position_of_neg hoffset] at hfirst
    omega

end Stretches

section Parsing

variable {params : Params} {d : Directives} {loads : List Load}

theorem readCount_ne_zero {default : Int} (h : default ≠ 0) (text : String) : readCount default text ≠ 0 := by
  unfold readCount
  split
  · exact h
  · split
    · exact h
    · assumption

def offsetOf (params : Params) : Int := ((param params "offset").map (readCount defaultOffset)).getD 0

def sizeOf? (params : Params) : Option Int := (param params "pageSize").map (readCount defaultPageSize)

/-- Directives that choose nothing but a page choose what it is taken to be. -/
theorem narrow_page (hfilter : d.filter = none) (hsort : d.sortBy = []) (hdistinct : d.distinct = [])
    (records : List Record) :
    narrow d (.many records) =
      .ok (.many ((taken (d.offset.getD 0) d.pageSize records.length).of records)) := by
  have hfiltered : filtered d records = records := by rw [filtered, hfilter]
  have hpaged : paged d records = (taken (d.offset.getD 0) d.pageSize records.length).of records := by
    rw [← takePage_dropTo, paged]
    cases d.offset <;> cases d.pageSize <;> rfl
  rw [narrow, narrowList, hfiltered, hsort, hdistinct]
  show Except.ok (Found.many (paged d records)) = _
  rw [hpaged]

/-- Any two texts for offset and page size are read, and a page of them is what it is taken to be. That is what it
is asked for to be, if no number below zero changes it, and if none of the records comes twice, only then. -/
theorem page_as_asked (hwhere : param params "where" = none) (hsort : param params "sortBy" = none)
    (hdistinct : param params "distinct" = none) (hloads : Directives.parseLoads params = .ok loads) :
    ∃ d, Directives.parse params = .ok d ∧ ∀ records,
      let page := narrow d (.many records)
      let offset := offsetOf params
      let size := sizeOf? params
      page = .ok (.many ((taken offset size records.length).of records)) ∧
      (IsHonoured offset size records.length → page = .ok (.many ((asked offset size records.length).of records))) ∧
      (records.Nodup → page = .ok (.many ((asked offset size records.length).of records)) →
        IsHonoured offset size records.length) := by
  obtain ⟨d, hd, hfilter, hsort, hdistinct, hoffset, hsize⟩ : ∃ d, Directives.parse params = .ok d ∧
      d.filter = none ∧ d.sortBy = [] ∧ d.distinct = [] ∧ d.offset.getD 0 = offsetOf params ∧
      d.pageSize = sizeOf? params := by
    rw [Directives.parse, Directives.parseFilter, hwhere]
    dsimp only
    rw [hloads, hsort, hdistinct]
    exact ⟨_, rfl, rfl, rfl, rfl, rfl, rfl⟩
  have hzero : sizeOf? params ≠ some 0 := by
    unfold sizeOf?
    rw [ne_eq, Option.map_eq_some_iff]
    rintro ⟨text, -, h⟩
    exact readCount_ne_zero (by decide) text h
  refine ⟨d, hd, fun records => ?_⟩
  intro page offset size
  have hpage : page = .ok (.many ((taken offset size records.length).of records)) := by
    simp only [page, offset, size, ← hoffset, ← hsize]
    exact narrow_page hfilter hsort hdistinct records
  refine ⟨hpage, fun h => ?_, fun hunlike h => ?_⟩
  · rw [hpage, h.taken_of]
  · rw [hpage] at h
    exact isHonoured_of_taken hunlike hzero (Found.many.inj (Except.ok.inj h))

end Parsing

/-! ### Three books -/

def threeBooks : List Record := [[("_id", .text "b1")], [("_id", .text "b2")], [("_id", .text "b3")]]

def secondPage : Params := [("offset", "1"), ("pageSize", "2")]

theorem page_as_asked_second :
    param secondPage "where" = none ∧ param secondPage "sortBy" = none ∧ param secondPage "distinct" = none ∧
      Directives.parseLoads secondPage = .ok [] ∧ IsHonoured 1 (some 2) 3 ∧
      ∃ d, Directives.parse secondPage = .ok d ∧ narrow d (.many threeBooks) = .ok (.many (threeBooks.drop 1)) := by
  have hwhere : param secondPage "where" = none := by decide
  have hsort : param secondPage "sortBy" = none := by decide
  have hdistinct : param secondPage "distinct" = none := by decide
  have hloads : Directives.parseLoads secondPage = .ok [] := rfl
  have hoffset : offsetOf secondPage = 1 := by decide +kernel
  have hsize : sizeOf? secondPage = some 2 := by decide +kernel
  have hhonoured : IsHonoured 1 (some 2) 3 := ⟨fun n hn => by cases hn; decide, fun _ => by decide⟩
  obtain ⟨d, hd, hpage⟩ := page_as_asked hwhere hsort hdistinct hloads
  obtain ⟨-, hasked, -⟩ := hpage threeBooks
  rw [hoffset, hsize] at hasked
  exact ⟨hwhere, hsort, hdistinct, hloads, hhonoured, d, hd, hasked hhonoured⟩

/-- An offset below zero gives the last book alone, not all of them; a size below zero gives two books, not none. -/
theorem negative_number_counts_from_the_end :
    (∃ d, Directives.parse [("offset", "-1")] = .ok d ∧ narrow d (.many threeBooks) = .ok (.many (threeBooks.drop 2)) ∧
      (asked (offsetOf [("offset", "-1")]) (sizeOf? [("offset", "-1")]) 3).of threeBooks = threeBooks) ∧
    ∃ d, Directives.parse [("pageSize", "-1")] = .ok d ∧ narrow d (.many threeBooks) = .ok (.many (threeBooks.take 2)) ∧
      (asked (offsetOf [("pageSize", "-1")]) (sizeOf? [("pageSize", "-1")]) 3).of threeBooks = [] := by
  have hoffset : offsetOf [("offset", "-1")] = -1 := by decide +kernel
  have hsize : sizeOf? [("pageSize", "-1")] = some (-1) := by decide +kernel
  refine ⟨⟨{ Directives.none with offset := some (-1) }, by decide +kernel, rfl, ?_⟩,
    { Directives.none with pageSize := some (-1) }, by decide +kernel, rfl, ?_⟩
  · rw [hoffset]
    rfl
  · rw [hsize]
    rfl

end Query

end DocumentStore
