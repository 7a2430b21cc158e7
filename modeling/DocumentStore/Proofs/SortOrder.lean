/-
  DocumentStore.Proofs.SortOrder — sorting by several keys is one stable sort by all of them.

  A pass fails only where two records do not compare, and a pass that comes through is an insertion sort by
  the order of its key (`SortKey.pass_ok`). Such a sort keeps whatever the list before it had in order, among
  those that it does not tell apart (`pairwise_insertionSort_ties`): the ones that compare alike are the same
  row before and after it (`filter_insertionSort`). Values compare through no single order. Numbers go by value
  and all else by texts, which is no order of both; but where a field holds only numbers, or none, it is one on
  the values that are there, null being least (`exists_order`).

  So the passes, from the last key to the first, put records in the order of the first key that tells them
  apart, and leave those that none tells apart as they came. They come through if each two records compare by
  each key (`sortRecords_stable`); with a number too long to be written beside what is no number, they do not
  (`long_number_is_not_sorted`).
-/

import DocumentStore.Proofs.Result
import DocumentStore.Query.Order
import Mathlib.Data.List.Sort

namespace DocumentStore

/-! ## Orders of numbers and of texts -/

namespace Decimal

instance : Ord Rank := ⟨Rank.compare⟩

instance : Std.TransOrd Rank where
  eq_swap {a b} := by
    cases a <;> cases b <;> first | rfl | exact @Std.OrientedCmp.eq_swap Int Ord.compare _ _ _
  isLE_trans {a b c} hab hbc := by
    cases a <;> cases b <;> cases c <;>
      first
      | rfl
      | exact absurd hab Bool.false_ne_true
      | exact absurd hbc Bool.false_ne_true
      | exact @Std.TransCmp.isLE_trans Int Ord.compare _ _ _ _ hab hbc

theorem layOut_ne_nil (digits : List Char) (place : Int) : layOut digits place ≠ [] := by
  unfold layOut
  split
  · split
    · exact List.cons_ne_nil _ _
    · exact List.append_ne_nil_of_right_ne_nil _ (List.cons_ne_nil _ _)
  · exact List.append_ne_nil_of_right_ne_nil _ (List.cons_ne_nil _ _)

/-- Every number is written by some characters. -/
theorem Binary64.text_ne_empty (x : Binary64) : x.text "Infinity" "NaN" ≠ "" := by
  cases x with
  | nan => decide
  | infinite negative => cases negative <;> decide
  | finite negative m e =>
    intro h
    have hnil := congrArg String.toList h
    rw [Binary64.text, String.toList_ofList] at hnil
    refine List.append_ne_nil_of_right_ne_nil _ ?_ hnil
    split
    · exact List.cons_ne_nil _ _
    · exact layOut_ne_nil _ _

theorem intChars_ne_nil (n : Int) : intChars n ≠ [] := List.append_ne_nil_of_right_ne_nil _ Nat.toDigits_ne_nil

end Decimal

namespace Value

theorem isLE_compareTexts {a b : String} : (compareTexts a b).isLE = true ↔ ¬ Text.codes b < Text.codes a := by
  rw [compareTexts]
  split
  · rename_i hlt
    simp [List.lt_asymm hlt]
  split
  · rename_i hgt
    simp [hgt]
  · rename_i hgt
    simp [hgt]

instance : Std.TransCmp compareTexts where
  eq_swap {a b} := by
    unfold compareTexts
    by_cases hab : Text.codes a < Text.codes b
    · simp [hab, List.lt_asymm hab]
    · by_cases hba : Text.codes b < Text.codes a <;> simp [hab, hba]
  isLE_trans {a b c} hab hbc := by
    rw [isLE_compareTexts] at hab hbc ⊢
    exact List.not_lt.mpr (List.le_trans (List.not_lt.mp hab) (List.not_lt.mp hbc))

/-- The empty text comes before every other. -/
theorem compareTexts_empty {s : String} (h : s ≠ "") : compareTexts "" s = .lt := by
  obtain ⟨c, cs, hcs⟩ := List.exists_cons_of_ne_nil (mt String.toList_eq_nil_iff.mp h)
  have hlt : Text.codes "" < Text.codes s := by
    rw [Text.codes, Text.codes, hcs]
    exact List.nil_lt_cons _ _
  rw [compareTexts, if_pos hlt]

end Value

namespace Query

open DocumentStore.Decimal

/-! ## Two values -/

section Values

variable {a b v : Value} {f : Failure} {o : Ordering}

/-- The text of a value, be it one that can be written or not. -/
def plainText : Value → String
  | .null => ""
  | .text s => s
  | v => Json.write v

theorem keyText_eq (v : Value) :
    keyText v = match v.unwritable? with
      | none => .ok (plainText v)
      | some u => .error (u.failure .json) := by
  cases v with
  | null => rfl
  | text s => rfl
  | _ => cases hu : Value.unwritable? _ <;> simp only [keyText, Json.writeOut, plainText, hu]

theorem keyText_eq_error_iff : keyText v = .error f ↔ ∃ u, v.unwritable? = some u ∧ u.failure .json = f := by
  rw [keyText_eq]
  cases v.unwritable? <;> simp

/-- How two values are ordered, if they compare. -/
def order (a b : Value) : Ordering :=
  match a.number?, b.number? with
  | some m, some n => (m.compare? n).getD .eq
  | _, _ => Value.compareTexts (plainText a) (plainText b)

/-- Both are numbers, or both can be written. -/
def Comparable (a b : Value) : Prop :=
  (a.number?.isSome = true ∧ b.number?.isSome = true) ∨ (a.unwritable? = none ∧ b.unwritable? = none)

theorem Comparable.symm (h : Comparable a b) : Comparable b a := h.imp And.symm And.symm

theorem compareValues_of_texts (h : ¬ (a.number?.isSome = true ∧ b.number?.isSome = true)) :
    compareValues a b = match keyText a, keyText b with
      | .ok s, .ok t => .ok (Value.compareTexts s t)
      | .error f, _ => .error f
      | .ok _, .error f => .error f := by
  unfold compareValues
  split
  · rename_i ha hb
    exact absurd ⟨by rw [ha]; rfl, by rw [hb]; rfl⟩ h
  · rfl

theorem order_of_texts (h : ¬ (a.number?.isSome = true ∧ b.number?.isSome = true)) :
    order a b = Value.compareTexts (plainText a) (plainText b) := by
  unfold order
  split
  · rename_i ha hb
    exact absurd ⟨by rw [ha]; rfl, by rw [hb]; rfl⟩ h
  · rfl

theorem compareValues_eq_ok_iff : compareValues a b = .ok o ↔ Comparable a b ∧ order a b = o := by
  by_cases h : a.number?.isSome = true ∧ b.number?.isSome = true
  · obtain ⟨m, hm⟩ := Option.isSome_iff_exists.mp h.1
    obtain ⟨n, hn⟩ := Option.isSome_iff_exists.mp h.2
    simp only [compareValues, order, Comparable, hm, hn, Option.isSome_some, and_self, true_or, true_and, Except.ok.injEq]
  · rw [compareValues_of_texts h, order_of_texts h, Comparable, or_iff_right h, keyText_eq a, keyText_eq b]
    cases a.unwritable? <;> cases b.unwritable? <;> simp

/-- Values do not compare for what in one of them cannot be written. -/
theorem compareValues_error (h : compareValues a b = .error f) :
    ∃ u, (a.unwritable? = some u ∨ b.unwritable? = some u) ∧ u.failure .json = f := by
  unfold compareValues at h
  split at h
  · cases h
  split at h
  · cases h
  · rename_i ha
    cases h
    obtain ⟨u, hu, rfl⟩ := keyText_eq_error_iff.mp ha
    exact ⟨u, Or.inl hu, rfl⟩
  · rename_i hb
    cases h
    obtain ⟨u, hu, rfl⟩ := keyText_eq_error_iff.mp hb
    exact ⟨u, Or.inr hu, rfl⟩

end Values

/-! ## Two records -/

section Records

variable {key : SortKey} {keys : List SortKey} {record : Record} {records sorted : List Record} {f : Failure}

namespace SortKey

/-- How a key orders two records, if they compare. -/
def order (key : SortKey) (a b : Record) : Ordering :=
  let o := Query.order (a.value key.field) (b.value key.field)
  if key.descending then o.swap else o

def Compares (key : SortKey) (a b : Record) : Prop := Comparable (a.value key.field) (b.value key.field)

abbrev Le (key : SortKey) (a b : Record) : Prop := (key.order a b).isLE = true

theorem compare_eq_ok_iff {a b : Record} {o : Ordering} :
    key.compare a b = .ok o ↔ key.Compares a b ∧ key.order a b = o := by
  rw [compare, Result.map_eq_ok, order]
  constructor
  · rintro ⟨o', ho, rfl⟩
    obtain ⟨hc, rfl⟩ := compareValues_eq_ok_iff.mp ho
    exact ⟨hc, rfl⟩
  · rintro ⟨hc, rfl⟩
    exact ⟨_, compareValues_eq_ok_iff.mpr ⟨hc, rfl⟩, rfl⟩

/-! ## One pass -/

theorem insert_ok (h : key.insert record records = .ok sorted) : sorted = records.orderedInsert key.Le record := by
  induction records generalizing sorted with
  | nil =>
    cases h
    rfl
  | cons first rest ih =>
    unfold insert at h
    split at h
    · cases h
    rename_i o ho
    obtain ⟨-, rfl⟩ := compare_eq_ok_iff.mp ho
    rw [List.orderedInsert_cons]
    split at h
    · rename_i hle
      cases h
      rw [if_pos hle]
    · rename_i hgt
      obtain ⟨others, hothers, rfl⟩ := Result.map_eq_ok.mp h
      rw [if_neg hgt, ih hothers]

/-- A pass that comes through is an insertion sort. -/
theorem pass_ok (h : key.pass records = .ok sorted) : sorted = records.insertionSort key.Le := by
  induction records generalizing sorted with
  | nil =>
    cases h
    rfl
  | cons record rest ih =>
    unfold pass at h
    split at h
    · cases h
    · rename_i others hothers
      rw [insert_ok h, ih hothers, List.insertionSort_cons]

theorem perm_pass (h : key.pass records = .ok sorted) : sorted.Perm records := by
  rw [pass_ok h]
  exact List.perm_insertionSort key.Le records

theorem exists_insert (h : ∀ r ∈ records, key.Compares record r) : ∃ sorted, key.insert record records = .ok sorted := by
  induction records with
  | nil => exact ⟨_, rfl⟩
  | cons first rest ih =>
    obtain ⟨hfirst, hrest⟩ := List.forall_mem_cons.mp h
    obtain ⟨others, hothers⟩ := ih hrest
    simp only [insert, compare_eq_ok_iff.mpr ⟨hfirst, rfl⟩, hothers]
    split
    · exact ⟨_, rfl⟩
    · exact ⟨_, rfl⟩

/-- A pass over records that compare comes through. -/
theorem exists_pass (h : records.Pairwise key.Compares) : ∃ sorted, key.pass records = .ok sorted := by
  induction records with
  | nil => exact ⟨_, rfl⟩
  | cons record rest ih =>
    obtain ⟨hrecord, hrest⟩ := List.pairwise_cons.mp h
    obtain ⟨others, hothers⟩ := ih hrest
    obtain ⟨sorted, hsorted⟩ := exists_insert fun r hr => hrecord r ((perm_pass hothers).mem_iff.mp hr)
    simp only [pass, hothers]
    exact ⟨sorted, hsorted⟩

theorem insert_error (h : key.insert record records = .error f) : ∃ r ∈ records, key.compare record r = .error f := by
  induction records with
  | nil => cases h
  | cons first rest ih =>
    unfold insert at h
    split at h
    · rename_i hfirst
      cases h
      exact ⟨first, List.mem_cons_self, hfirst⟩
    split at h
    · cases h
    · obtain ⟨r, hr, hf⟩ := ih (Result.map_eq_error.mp h)
      exact ⟨r, List.mem_cons_of_mem first hr, hf⟩

theorem pass_error (h : key.pass records = .error f) :
    ∃ a ∈ records, ∃ b ∈ records, key.compare a b = .error f := by
  induction records with
  | nil => cases h
  | cons record rest ih =>
    unfold pass at h
    split at h
    · rename_i hrest
      cases h
      obtain ⟨a, ha, b, hb, hf⟩ := ih hrest
      exact ⟨a, List.mem_cons_of_mem record ha, b, List.mem_cons_of_mem record hb, hf⟩
    · rename_i others hothers
      obtain ⟨r, hr, hf⟩ := insert_error h
      exact ⟨record, List.mem_cons_self, r,
        List.mem_cons_of_mem record ((perm_pass hothers).mem_iff.mp hr), hf⟩

end SortKey

/-! ## All passes, as far as they come -/

theorem sortRecords_cons_eq_ok_iff :
    sortRecords (key :: keys) records = .ok sorted ↔
      ∃ before, sortRecords keys records = .ok before ∧ key.pass before = .ok sorted := by
  rw [sortRecords]
  cases sortRecords keys records <;> simp

theorem perm_sortRecords (h : sortRecords keys records = .ok sorted) : sorted.Perm records := by
  induction keys generalizing sorted with
  | nil =>
    cases h
    exact .refl _
  | cons key keys ih =>
    obtain ⟨before, hbefore, hpass⟩ := sortRecords_cons_eq_ok_iff.mp h
    exact (SortKey.perm_pass hpass).trans (ih hbefore)

theorem exists_sortRecords (h : ∀ key ∈ keys, records.Pairwise key.Compares) :
    ∃ sorted, sortRecords keys records = .ok sorted := by
  induction keys with
  | nil => exact ⟨_, rfl⟩
  | cons key keys ih =>
    obtain ⟨hkey, hkeys⟩ := List.forall_mem_cons.mp h
    obtain ⟨before, hbefore⟩ := ih hkeys
    have hcompares := hkey.perm (perm_sortRecords hbefore).symm Comparable.symm
    obtain ⟨sorted, hsorted⟩ := SortKey.exists_pass hcompares
    exact ⟨sorted, sortRecords_cons_eq_ok_iff.mpr ⟨before, hbefore, hsorted⟩⟩

/-- Sorting fails as the comparison of two of the records does. -/
theorem sortRecords_error (h : sortRecords keys records = .error f) :
    ∃ key ∈ keys, ∃ a ∈ records, ∃ b ∈ records, key.compare a b = .error f := by
  induction keys with
  | nil => cases h
  | cons key keys ih =>
    rw [sortRecords] at h
    split at h
    · rename_i hbefore
      cases h
      obtain ⟨k, hk, hpair⟩ := ih hbefore
      exact ⟨k, List.mem_cons_of_mem key hk, hpair⟩
    · rename_i before hbefore
      have hmem : ∀ r, r ∈ before ↔ r ∈ records := fun r => (perm_sortRecords hbefore).mem_iff
      obtain ⟨a, ha, b, hb, hf⟩ := SortKey.pass_error h
      exact ⟨key, List.mem_cons_self, a, (hmem a).mp ha, b, (hmem b).mp hb, hf⟩

theorem mem_sortRecords {r : Record} (h : sortRecords keys records = .ok sorted) : r ∈ sorted ↔ r ∈ records :=
  (perm_sortRecords h).mem_iff

end Records

/-! ## A stable sort -/

section Pass

variable {α : Type} {cmp : α → α → Ordering} [Std.TransCmp cmp] {R : α → α → Prop} {l : List α}

theorem pairwise_insertionSort_cmp (l : List α) :
    (l.insertionSort fun a b => (cmp a b).isLE = true).Pairwise fun a b => (cmp a b).isLE = true := by
  have htrans : IsTrans α fun a b => (cmp a b).isLE = true := ⟨fun _ _ _ => Std.TransCmp.isLE_trans⟩
  have htotal : Std.Total fun a b : α => (cmp a b).isLE = true := by
    refine ⟨fun a b => ?_⟩
    have hswap : cmp b a = (cmp a b).swap := Std.OrientedCmp.eq_swap
    rw [hswap]
    cases cmp a b <;> simp
  exact List.pairwise_insertionSort _ l

/-- Those that compare alike are sorted as they came. -/
theorem filter_insertionSort (a : α) :
    (l.insertionSort fun a b => (cmp a b).isLE = true).filter (fun b => cmp a b == .eq) =
      l.filter fun b => cmp a b == .eq := by
  have halike : (l.filter fun b => cmp a b == .eq).Pairwise fun b c => (cmp b c).isLE = true := by
    refine List.pairwise_of_forall_mem_list fun b hb c hc => ?_
    have hab := eq_of_beq (List.mem_filter.mp hb).2
    have hac := eq_of_beq (List.mem_filter.mp hc).2
    rw [← Std.TransCmp.congr_left hab, hac]
    rfl
  have hsub := List.sublist_insertionSort halike List.filter_sublist
  have hfilter := hsub.filter fun b => cmp a b == .eq
  simp only [List.filter_filter, Bool.and_self] at hfilter
  exact (hfilter.eq_of_length ((List.perm_insertionSort _ l).filter _).length_eq.symm).symm

/-- What a list had in order stays so among those that compare alike. -/
theorem pairwise_insertionSort_ties (cmp : α → α → Ordering) [Std.TransCmp cmp] (h : l.Pairwise R) :
    (l.insertionSort fun a b => (cmp a b).isLE = true).Pairwise fun a b =>
      cmp a b = .lt ∨ (cmp a b = .eq ∧ R a b) := by
  refine List.pairwise_iff_forall_sublist.mpr fun {a b} hab => ?_
  have hle := List.pairwise_iff_forall_sublist.mp (pairwise_insertionSort_cmp l) hab
  cases hcmp : cmp a b with
  | lt => exact Or.inl rfl
  | gt => cases hcmp ▸ hle
  | eq =>
    -- both are in the class of `a`, which is the same row of the list before the pass
    have hpair := hab.filter fun c => cmp a c == .eq
    have hself : cmp a a = .eq := Std.ReflCmp.compare_self
    simp only [filter_insertionSort, List.filter_cons, hself, hcmp, BEq.rfl, if_true, List.filter_nil] at hpair
    exact Or.inr ⟨rfl, List.pairwise_iff_forall_sublist.mp h (hpair.trans List.filter_sublist)⟩

end Pass

/-! ## What a field is ordered by -/

section Fields

variable {a b v : Value} {key : SortKey} {records : List Record}

def IsPlaced (v : Value) : Prop := v = .null ∨ ∃ n, v.number? = some n ∧ n.rank?.isSome = true

/-- Of the values a field has in the records, null apart, all are numbers but not-a-number or none is a number. -/
def IsUniform (field : String) (records : List Record) : Prop :=
  (∀ r ∈ records, IsPlaced (r.value field)) ∨ ∀ r ∈ records, (r.value field).number? = none

def place (v : Value) : Option Rank := v.number?.bind (·.rank?)

theorem plainText_of_number {n : Number} (h : v.number? = some n) : plainText v ≠ "" := by
  intro hempty
  have hnil := congrArg String.toList hempty
  cases v with
  | int n =>
    rw [plainText, Json.write, String.toList_ofList] at hnil
    · exact intChars_ne_nil n hnil
    · exact fun hc => by cases hc
    · exact fun s hc => by cases hc
  | float x =>
    rw [plainText, Json.write, String.toList_ofList] at hnil
    · exact Binary64.text_ne_empty x (String.toList_eq_nil_iff.mp hnil)
    · exact fun hc => by cases hc
    · exact fun s hc => by cases hc
  | _ => cases h

theorem order_of_not_number (h : a.number? = none) :
    order a b = Value.compareTexts (plainText a) (plainText b) := by rw [order, h]

/-- Numbers go by their places, and null before all of them. -/
theorem order_of_placed (ha : IsPlaced a) (hb : IsPlaced b) : order a b = compare (place a) (place b) := by
  rcases ha with rfl | ⟨m, hm, hx⟩ <;> rcases hb with rfl | ⟨n, hn, hy⟩
  · show Value.compareTexts "" "" = .eq
    exact Std.ReflCmp.compare_self
  · obtain ⟨y, hy⟩ := Option.isSome_iff_exists.mp hy
    rw [order_of_not_number rfl, place, place, hn, Option.bind_some, hy]
    exact Value.compareTexts_empty (plainText_of_number hn)
  · obtain ⟨x, hx⟩ := Option.isSome_iff_exists.mp hx
    have htexts : order a .null = Value.compareTexts (plainText a) "" := by
      rw [order, hm]
      rfl
    have hswap : Value.compareTexts (plainText a) "" = (Value.compareTexts "" (plainText a)).swap :=
      Std.OrientedCmp.eq_swap
    rw [htexts, hswap, Value.compareTexts_empty (plainText_of_number hm), place, place, hm, Option.bind_some, hx]
    rfl
  · obtain ⟨x, hx⟩ := Option.isSome_iff_exists.mp hx
    obtain ⟨y, hy⟩ := Option.isSome_iff_exists.mp hy
    rw [order, place, place, hm, hn, Option.bind_some, Option.bind_some, hx, hy]
    simp only [Number.compare?, hx, hy]
    rfl

theorem transCmp_comap {α β : Type} (cmp : β → β → Ordering) [Std.TransCmp cmp] (f : α → β) :
    Std.TransCmp fun a b => cmp (f a) (f b) where
  eq_swap := Std.OrientedCmp.eq_swap
  isLE_trans := Std.TransCmp.isLE_trans

/-- Where the values of a field are uniform, its key puts the records in an order. -/
theorem exists_order (h : IsUniform key.field records) :
    ∃ cmp : Record → Record → Ordering, Std.TransCmp cmp ∧
      ∀ a ∈ records, ∀ b ∈ records, key.order a b = cmp a b := by
  obtain ⟨cmp, hcmp, hvalues⟩ : ∃ cmp : Record → Record → Ordering, Std.TransCmp cmp ∧
      ∀ a ∈ records, ∀ b ∈ records, order (a.value key.field) (b.value key.field) = cmp a b := by
    rcases h with hplaced | htexts
    · exact ⟨_, transCmp_comap compare fun r : Record => place (r.value key.field),
        fun a ha b hb => order_of_placed (hplaced a ha) (hplaced b hb)⟩
    · exact ⟨_, transCmp_comap Value.compareTexts fun r : Record => plainText (r.value key.field),
        fun a ha b _ => order_of_not_number (htexts a ha)⟩
  cases hdescending : key.descending with
  | false =>
    refine ⟨cmp, hcmp, fun a ha b hb => ?_⟩
    rw [SortKey.order, hdescending, hvalues a ha b hb]
    rfl
  | true =>
    refine ⟨fun a b => cmp b a, inferInstance, fun a ha b hb => ?_⟩
    rw [SortKey.order, hdescending, hvalues a ha b hb]
    exact Std.OrientedCmp.eq_swap.symm

end Fields

/-! ## All passes -/

section Keys

variable {key : SortKey} {keys : List SortKey} {records : List Record} {a b : Record}

/-- The first of the keys that tells the records apart puts the one before the other. -/
def Precedes (keys : List SortKey) (a b : Record) : Prop :=
  ∃ front key back, keys = front ++ key :: back ∧ (∀ k ∈ front, k.order a b = .eq) ∧ key.order a b = .lt

def Tied (keys : List SortKey) (a b : Record) : Prop := ∀ key ∈ keys, key.order a b = .eq

theorem Precedes.head (h : key.order a b = .lt) (keys : List SortKey) : Precedes (key :: keys) a b :=
  ⟨[], key, keys, rfl, fun _ hk => (List.not_mem_nil hk).elim, h⟩

theorem Precedes.tail (hkey : key.order a b = .eq) (h : Precedes keys a b) : Precedes (key :: keys) a b := by
  obtain ⟨front, k, back, rfl, hfront, hk⟩ := h
  exact ⟨key :: front, k, back, rfl, List.forall_mem_cons.mpr ⟨hkey, hfront⟩, hk⟩

/-- The positions at which the records came tell a record from others that are the same. -/
theorem pairwise_zipIdx (records : List Record) : records.zipIdx.Pairwise fun a b => a.2 < b.2 := by
  rw [← List.pairwise_map, List.zipIdx_map_snd]
  exact List.pairwise_lt_range' 1

/-- Records that were sorted are the records that came, each two of them in the order of the first key that
tells them apart or, if none does, as they came. -/
def SortedBy (keys : List SortKey) (records sorted : List Record) : Prop :=
  ∃ placed : List (Record × Nat), placed.Perm records.zipIdx ∧ placed.map Prod.fst = sorted ∧
    placed.Pairwise fun a b => Precedes keys a.1 b.1 ∨ (Tied keys a.1 b.1 ∧ a.2 < b.2)

theorem sortedBy_of_sortRecords (h : ∀ key ∈ keys, IsUniform key.field records) {sorted : List Record}
    (hs : sortRecords keys records = .ok sorted) : SortedBy keys records sorted := by
  -- the first key's pass is the last one, over what the other keys have sorted
  induction keys generalizing sorted with
  | nil =>
    cases hs
    refine ⟨records.zipIdx, .refl _, List.zipIdx_map_fst 0 records, ?_⟩
    exact (pairwise_zipIdx records).imp fun hlt => Or.inr ⟨fun _ hk => (List.not_mem_nil hk).elim, hlt⟩
  | cons key keys ih =>
    obtain ⟨hkey, hkeys⟩ := List.forall_mem_cons.mp h
    obtain ⟨before, hbefore, hpass⟩ := sortRecords_cons_eq_ok_iff.mp hs
    obtain ⟨placed, hperm, hfst, hordered⟩ := ih hkeys hbefore
    obtain ⟨cmp, hcmp, hagree⟩ := exists_order hkey
    have hmem : ∀ a ∈ placed, a.1 ∈ records := fun a ha => by
      rw [← List.zipIdx_map_fst 0 records]
      exact List.mem_map_of_mem (hperm.mem_iff.mp ha)
    have := transCmp_comap cmp (Prod.fst : Record × Nat → Record)
    have hsorted := List.perm_insertionSort (fun a b : Record × Nat => (cmp a.1 b.1).isLE = true) placed
    refine ⟨placed.insertionSort fun a b => (cmp a.1 b.1).isLE = true, hsorted.trans hperm, ?_, ?_⟩
    · rw [SortKey.pass_ok hpass, ← hfst]
      refine List.map_insertionSort _ _ Prod.fst placed fun a ha b hb => ?_
      rw [SortKey.Le, hagree a.1 (hmem a ha) b.1 (hmem b hb)]
    · have hties := pairwise_insertionSort_ties (fun a b : Record × Nat => cmp a.1 b.1) hordered
      refine hties.imp_of_mem fun {a b} ha hb hab => ?_
      rw [← hagree a.1 (hmem a (hsorted.mem_iff.mp ha)) b.1 (hmem b (hsorted.mem_iff.mp hb))] at hab
      rcases hab with hlt | ⟨heq, hbefore | ⟨htied, hlt⟩⟩
      · exact Or.inl (.head hlt keys)
      · exact Or.inl (.tail heq hbefore)
      · exact Or.inr ⟨List.forall_mem_cons.mpr ⟨heq, htied⟩, hlt⟩

/-- Where the values of each key's field are uniform, sorting comes through if each two records compare by
each key, and then puts them in the order of the first key that tells them apart, leaving those that none
tells apart as they came. It does so whenever it comes through; else it fails over two records that do not
compare, for what in one of them cannot be written. -/
theorem sortRecords_stable (h : ∀ key ∈ keys, IsUniform key.field records) :
    ((∀ key ∈ keys, records.Pairwise key.Compares) → ∃ sorted, sortRecords keys records = .ok sorted) ∧
    (∀ sorted, sortRecords keys records = .ok sorted → SortedBy keys records sorted) ∧
    ∀ f, sortRecords keys records = .error f → ∃ key ∈ keys, ∃ a ∈ records, ∃ b ∈ records,
      ¬ key.Compares a b ∧ ∃ u, ((a.value key.field).unwritable? = some u ∨
        (b.value key.field).unwritable? = some u) ∧ u.failure .json = f := by
  refine ⟨exists_sortRecords, fun sorted => sortedBy_of_sortRecords h, fun f hf => ?_⟩
  obtain ⟨key, hkey, a, ha, b, hb, hc⟩ := sortRecords_error hf
  refine ⟨key, hkey, a, ha, b, hb, fun hcompares => ?_, compareValues_error (Result.map_eq_error.mp hc)⟩
  rw [SortKey.compare_eq_ok_iff.mpr ⟨hcompares, rfl⟩] at hc
  cases hc

end Keys

/-! ### Books by rating and title -/

def rated (title : String) (rating : Value) : Record := [("title", .text title), ("rating", rating)]

def ratedBooks : List Record := [rated "Emma" (.int 3), rated "Ivan" .null, rated "Emma" (.int 3), rated "Dune" (.int 5)]

def byRating : List SortKey := [⟨"rating", true⟩, ⟨"title", false⟩]

theorem isUniform_ratedBooks : ∀ key ∈ byRating, IsUniform key.field ratedBooks := by
  refine List.forall_mem_cons.mpr ⟨Or.inl ?_, List.forall_mem_singleton.mpr (Or.inr (by decide))⟩
  refine List.forall_mem_cons.mpr ⟨Or.inr ⟨.int 3, rfl, rfl⟩, List.forall_mem_cons.mpr ⟨Or.inl rfl, ?_⟩⟩
  exact List.forall_mem_cons.mpr
    ⟨Or.inr ⟨.int 3, rfl, rfl⟩, List.forall_mem_singleton.mpr (Or.inr ⟨.int 5, rfl, rfl⟩)⟩

theorem sortRecords_stable_books :
    (∀ key ∈ byRating, IsUniform key.field ratedBooks) ∧ (∀ key ∈ byRating, ratedBooks.Pairwise key.Compares) ∧
      ∃ sorted, sortRecords byRating ratedBooks = .ok sorted ∧ SortedBy byRating ratedBooks sorted := by
  have hwritable : ∀ key ∈ byRating, ∀ r ∈ ratedBooks, (r.value key.field).unwritable? = none := by decide +kernel
  have hcompares : ∀ key ∈ byRating, ratedBooks.Pairwise key.Compares := fun key hkey =>
    List.pairwise_of_forall_mem_list fun a ha b hb => Or.inr ⟨hwritable key hkey a ha, hwritable key hkey b hb⟩
  obtain ⟨hcomes, hsorted, -⟩ := sortRecords_stable isUniform_ratedBooks
  obtain ⟨sorted, hs⟩ := hcomes hcompares
  exact ⟨isUniform_ratedBooks, hcompares, sorted, hs, hsorted sorted hs⟩

/-! ### A number too long to be written -/

/-- A record with the least number that is too long, and one without any. -/
def longAndMissing : List Record := [[("k", .int (tenTo maxDigits))], []]

theorem isUniform_longAndMissing : IsUniform "k" longAndMissing :=
  Or.inl (List.forall_mem_cons.mpr ⟨Or.inr ⟨_, rfl, rfl⟩, List.forall_mem_singleton.mpr (Or.inl rfl)⟩)

/-- Beside a record without it, a number too long to be written is not sorted, though it is the only value of
its field. -/
theorem long_number_is_not_sorted :
    (∀ key ∈ [SortKey.mk "k" false], IsUniform key.field longAndMissing) ∧
      sortRecords [⟨"k", false⟩] longAndMissing = .error (.value .tooLong) := by
  refine ⟨List.forall_mem_singleton.mpr isUniform_longAndMissing, ?_⟩
  have hlong : (Value.int (tenTo maxDigits)).unwritable? = some .long := by
    rw [Value.unwritable?, Draft.ofValue, Draft.unwritable?, isLong, Int.natAbs_natCast,
      decide_eq_true (Nat.le_refl _), if_pos rfl]
  have htext : keyText (.int (tenTo maxDigits)) = .error (.value .tooLong) := by
    rw [keyText_eq, hlong]
    rfl
  have hnull : ¬ ((Value.int (tenTo maxDigits)).number?.isSome = true ∧ Value.null.number?.isSome = true) :=
    fun h => Bool.false_ne_true h.2
  have hvalues : compareValues (.int (tenTo maxDigits)) .null = .error (.value .tooLong) := by
    rw [compareValues_of_texts hnull, htext]
  have hcompare : SortKey.compare ⟨"k", false⟩ [("k", .int (tenTo maxDigits))] [] = .error (.value .tooLong) :=
    Result.map_eq_error.mpr hvalues
  simp only [sortRecords, longAndMissing, SortKey.pass, SortKey.insert, hcompare]

end Query

end DocumentStore
