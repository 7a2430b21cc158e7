/-
  DocumentStore.Store.Supply — what a store takes from outside: fresh ids and the time.

  An id source gives some ids that were lined up and then a series without repeats, so for
  every finite set of ids it gives one that is not in the set; `fresh` draws up to the
  first such id. The clock may stand still or run backwards.
-/

import DocumentStore.Decimal.Shortest

namespace DocumentStore.Store

structure IdSource where
  queued : List String
  series : Nat → String
  /-- How many ids of the series are used up. -/
  used : Nat
  series_injective : ∀ m n, series m = series n → m = n

namespace IdSource

/-- The next id, whatever it is. -/
def draw (source : IdSource) : String × IdSource :=
  match source.queued with
  | id :: rest => (id, { source with queued := rest })
  | [] => (source.series source.used, { source with used := source.used + 1 })

/-- The first place in the series, from `n` on, whose id is not taken. An id met in `taken`
comes no more, so it is taken out of the list. -/
def firstFree (series : Nat → String) (taken : List String) (n : Nat) : Nat :=
  if h : series n ∈ taken then firstFree series (taken.erase (series n)) (n + 1) else n
termination_by taken.length
decreasing_by
  have := List.length_erase_of_mem h
  have := List.length_pos_of_mem h
  omega

/-- The first id that is not taken; the ids before it are used up. -/
def fresh (source : IdSource) (taken : List String) : String × IdSource :=
  match source.queued.dropWhile (· ∈ taken) with
  | id :: rest => (id, { source with queued := rest })
  | [] =>
    let n := firstFree source.series taken source.used
    (source.series n, { source with queued := [], used := n + 1 })

/-- The series `id-1`, `id-2` and so on. -/
def numberedId (n : Nat) : String := String.ofList (['i', 'd', '-'] ++ Nat.toDigits 10 (n + 1))

theorem numberedId_injective (m n : Nat) (h : numberedId m = numberedId n) : m = n := by
  have h : Nat.toDigits 10 (m + 1) = Nat.toDigits 10 (n + 1) := by
    simpa [numberedId, String.ofList_inj] using h
  have := congrArg (fun ds => Nat.ofDigitChars 10 ds 0) h
  simp only [Nat.ofDigitChars_toDigits (b := 10) (by omega) (by omega)] at this
  omega

/-- The ids lined up, then numbered ones. -/
def numbered (queued : List String) : IdSource := ⟨queued, numberedId, 0, numberedId_injective⟩

end IdSource

structure Clock where
  reading : Nat → Int
  ticks : Nat

namespace Clock

/-- The next reading, in milliseconds. -/
def read (clock : Clock) : Int × Clock :=
  (clock.reading clock.ticks, { clock with ticks := clock.ticks + 1 })

/-- The readings given, the last of them for ever after. -/
def ofReadings (first : Int) (rest : List Int) : Clock :=
  ⟨fun n => ((first :: rest)[n]?).getD (rest.getLastD first), 0⟩

end Clock

end DocumentStore.Store
