/-
  DocumentStore.Proofs.Supply — a fresh id is one that is not taken, and the first of its kind.

  To get a fresh id means to draw ids until one is not taken (`fresh_eq`). So of the ids that a source has to
  come, which are a stream, `fresh` gives the first that is free, and leaves those that come after it
  (`fresh_of_first`). Drawing ends exactly if the stream has a free id (`exists_finds_iff`). A stream that repeats
  nothing from some place on has one, and that before it has been drawn from more often than there are ids up
  to that place and taken ones, since each of those can be in the way but once (`exists_free`). Every source is
  of this sort (`exists_free_id`).
-/

import Mathlib.Data.List.Nodup
import Mathlib.Data.List.Perm.Subperm
import Mathlib.Data.Nat.Find
import DocumentStore.Store.Supply

namespace DocumentStore.Store.IdSource

/-! ## The first free place of a series -/

section Series

variable {series : Nat → String}

theorem le_firstFree (taken : List String) (n : Nat) : n ≤ firstFree series taken n := by
  fun_induction firstFree series taken n with
  | case1 taken n _ ih => omega
  | case2 taken n _ => exact Nat.le_refl n

/-- The first free place is free: the ids met on the way, which come no more, are not missed in
the list. -/
theorem firstFree_not_mem (hs : ∀ m n, series m = series n → m = n) (taken : List String) (n : Nat) :
    series (firstFree series taken n) ∉ taken := by
  fun_induction firstFree series taken n with
  | case1 taken n _ ih =>
    have hlater : n + 1 ≤ firstFree series (taken.erase (series n)) (n + 1) := le_firstFree ..
    intro hm
    refine ih ((List.mem_erase_of_ne fun e => ?_).mpr hm)
    have := hs _ _ e
    omega
  | case2 taken n hfree => exact hfree

/-- What comes before the first free place is taken. -/
theorem mem_of_lt_firstFree {taken : List String} {n m : Nat} (hn : n ≤ m) (hm : m < firstFree series taken n) :
    series m ∈ taken := by
  fun_induction firstFree series taken n with
  | case1 taken n hmem ih =>
    rcases Nat.eq_or_lt_of_le hn with rfl | hlater
    · exact hmem
    · exact List.mem_of_mem_erase (ih hlater hm)
  | case2 taken n _ => omega

theorem firstFree_of_mem (hs : ∀ m n, series m = series n → m = n) {taken : List String} {n : Nat}
    (h : series n ∈ taken) : firstFree series taken n = firstFree series taken (n + 1) := by
  have hle : n ≤ firstFree series taken n := le_firstFree ..
  have hle' : n + 1 ≤ firstFree series taken (n + 1) := le_firstFree ..
  have hfree := firstFree_not_mem hs taken n
  have hfree' := firstFree_not_mem hs taken (n + 1)
  rcases Nat.lt_trichotomy (firstFree series taken n) (firstFree series taken (n + 1)) with hlt | heq | hlt
  · have hne : firstFree series taken n ≠ n := fun e => hfree (e.symm ▸ h)
    exact absurd (mem_of_lt_firstFree (by omega) hlt) hfree
  · exact heq
  · exact absurd (mem_of_lt_firstFree (by omega) hlt) hfree'

end Series

/-! ## Drawing from a source -/

section Draws

variable {source : IdSource} {taken : List String} {k n : Nat}

/-- To get a fresh id means to draw one, and again if it is taken. -/
theorem fresh_eq (source : IdSource) (taken : List String) :
    source.fresh taken = if source.draw.1 ∈ taken then source.draw.2.fresh taken else source.draw := by
  obtain ⟨queued, series, used, hs⟩ := source
  cases queued with
  | nil =>
    by_cases h : series used ∈ taken
    · simp [fresh, draw, h, firstFree_of_mem hs h]
    · have hhere : firstFree series taken used = used := by rw [firstFree, dif_neg h]
      simp [fresh, draw, h, hhere]
  | cons id rest =>
    by_cases h : id ∈ taken
    · simp [fresh, draw, h]
    · simp [fresh, draw, h]

theorem fresh_not_mem (source : IdSource) (taken : List String) : (source.fresh taken).1 ∉ taken := by
  unfold fresh
  split
  · rename_i id rest hqueue
    have hhead := List.head?_dropWhile_not (fun x => decide (x ∈ taken)) source.queued
    rw [hqueue] at hhead
    simpa using hhead
  · exact firstFree_not_mem source.series_injective taken source.used

def after : (source : IdSource) → (draws : Nat) → IdSource
  | source, 0 => source
  | source, n + 1 => after source.draw.2 n

def idAt (source : IdSource) (n : Nat) : String := (source.after n).draw.1

@[simp] theorem idAt_zero (source : IdSource) : source.idAt 0 = source.draw.1 := rfl

/-- A fresh id is the first to come that is free, and the ids up to it are used up. -/
theorem fresh_of_first (hfirst : ∀ i < k, source.idAt i ∈ taken) (hfree : source.idAt k ∉ taken) :
    source.fresh taken = (source.idAt k, source.after (k + 1)) := by
  induction k generalizing source with
  | zero =>
    rw [idAt_zero] at hfree
    rw [fresh_eq, if_neg hfree]
    rfl
  | succ k ih =>
    have hdrawn : source.draw.1 ∈ taken := hfirst 0 (Nat.succ_pos k)
    rw [fresh_eq, if_pos hdrawn]
    exact ih (fun i hi => hfirst (i + 1) (Nat.succ_lt_succ hi)) hfree

def StartsWith (source : IdSource) (ids : Nat → String) (n : Nat) : Prop := ∀ i < n, source.idAt i = ids i

/-- Behind the ids that are lined up the source gives its series. -/
theorem idAt_add_length (source : IdSource) (n : Nat) :
    source.idAt (source.queued.length + n) = source.series (source.used + n) := by
  obtain ⟨queued, series, used, hs⟩ := source
  induction queued with
  | nil =>
    dsimp only [List.length_nil]
    rw [Nat.zero_add]
    induction n generalizing used with
    | zero => rfl
    | succ n ih => exact (ih (used + 1)).trans (by rw [Nat.add_right_comm, Nat.add_assoc])
  | cons id rest ih =>
    dsimp only [List.length_cons]
    rw [Nat.add_right_comm]
    exact ih

theorem idAt_of_lt_length {n : Nat} (h : n < source.queued.length) : source.idAt n = source.queued[n] := by
  obtain ⟨queued, series, used, hs⟩ := source
  induction queued generalizing n with
  | nil => exact absurd h (Nat.not_lt_zero n)
  | cons id rest ih =>
    cases n with
    | zero => rfl
    | succ n => exact ih (Nat.lt_of_succ_lt_succ h)

/-- Ids can be lined up as they come from any stream. -/
theorem exists_startsWith (ids : Nat → String) (n : Nat) : ∃ source : IdSource, source.StartsWith ids n := by
  refine ⟨.numbered ((List.range n).map ids), fun i hi => ?_⟩
  rw [idAt_of_lt_length (by simpa [numbered] using hi)]
  simp [numbered]

end Draws

/-! ## Streams of ids -/

section Streams

variable {ids : Nat → String} {taken : List String} {k n : Nat}

/-- Drawing from the `n`-th id of a stream on, until one is not taken, ends with the `k`-th. Where all ids are taken
there is no end to it. -/
inductive Finds (ids : Nat → String) (taken : List String) : (n k : Nat) → Prop
  | free {n : Nat} (h : ids n ∉ taken) : Finds ids taken n n
  | again {n k : Nat} (h : ids n ∈ taken) (hrest : Finds ids taken (n + 1) k) : Finds ids taken n k

theorem finds_iff : Finds ids taken n k ↔ n ≤ k ∧ ids k ∉ taken ∧ ∀ i, n ≤ i → i < k → ids i ∈ taken := by
  constructor
  · intro h
    induction h with
    | free h => exact ⟨Nat.le_refl _, h, fun i hi hk => by omega⟩
    | @again n k h _ ih =>
      obtain ⟨hle, hfree, hfirst⟩ := ih
      refine ⟨by omega, hfree, fun i hi hk => ?_⟩
      rcases Nat.eq_or_lt_of_le hi with rfl | hlater
      · exact h
      · exact hfirst i hlater hk
  · rintro ⟨hle, hfree, hfirst⟩
    obtain ⟨d, rfl⟩ := Nat.exists_eq_add_of_le hle
    induction d generalizing n with
    | zero => exact .free hfree
    | succ d ih =>
      have hnext : n + (d + 1) = n + 1 + d := by omega
      rw [hnext] at hfree hfirst ⊢
      exact .again (hfirst n (Nat.le_refl n) (by omega))
        (ih (by omega) hfree fun i hi hk => hfirst i (by omega) hk)

/-- Drawing ends exactly if there is a free id. -/
theorem exists_finds_iff : (∃ k, Finds ids taken 0 k) ↔ ∃ m, ids m ∉ taken := by
  constructor
  · rintro ⟨k, h⟩
    exact ⟨k, (finds_iff.mp h).2.1⟩
  · intro h
    refine ⟨Nat.find h, finds_iff.mpr ⟨Nat.zero_le _, Nat.find_spec h, fun i _ hi => ?_⟩⟩
    exact not_not.mp (Nat.find_min h hi)

/-- Of ids that are all different no more are taken than there are taken ones. -/
theorem exists_free {lead : Nat} (hdistinct : ∀ i j, ids (lead + i) = ids (lead + j) → i = j) (taken : List String) :
    ∃ m ≤ lead + taken.length, ids m ∉ taken := by
  by_contra hno
  push Not at hno
  let drawn := (List.range (taken.length + 1)).map fun i => ids (lead + i)
  have hnodup : drawn.Nodup := List.nodup_range.map fun i j h => hdistinct i j h
  have hsub : drawn ⊆ taken := by
    intro id hid
    obtain ⟨i, hi, rfl⟩ := List.mem_map.mp hid
    have := List.mem_range.mp hi
    exact hno (lead + i) (by omega)
  have hlength := (hnodup.subperm hsub).length_le
  simp only [drawn, List.length_map, List.length_range] at hlength
  omega

/-- Every source has a free id to come. -/
theorem exists_free_id (source : IdSource) (taken : List String) :
    ∃ m ≤ source.queued.length + taken.length, source.idAt m ∉ taken := by
  refine exists_free (fun i j h => ?_) taken
  rw [idAt_add_length, idAt_add_length] at h
  have := source.series_injective _ _ h
  omega

end Streams

end DocumentStore.Store.IdSource
