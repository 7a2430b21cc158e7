/-
  DocumentStore.Proofs.JsonNumbers — a number is read back from the JSON that writes it.

  The digits of a number are written without a zero in front (`isWhole_toDigits`), and the shortest digits of a
  floating-point number are those of a number that is not zero (`shortest_cases`), so whatever their layout is,
  it is a number by the grammar of JSON (`isDecimalText_layOut`). What stands behind a number ends it (`Ends`), so it is
  read up to there: a whole number as itself (`readPlain_intChars`), any other as a floating-point
  number that does not depend on what stands behind it (`readPlain_writeFloat`).
-/

import DocumentStore.Json.Read
import DocumentStore.Json.Write
import DocumentStore.Proofs.Text
import Mathlib.Data.Nat.Digits.Defs

namespace DocumentStore

open Text Decimal

/-! ## Digits -/

namespace Decimal

structure IsDigits (cs : List Char) : Prop where
  ne_nil : cs ≠ []
  digit : ∀ c ∈ cs, isAsciiDigit c = true

/-- Digits as they stand in front of a point: a zero stands alone. -/
structure IsWhole (cs : List Char) : Prop extends IsDigits cs where
  lead : cs.head? = some '0' → cs = ['0']

inductive IsFraction : List Char → Prop
  | none : IsFraction []
  | digits {cs : List Char} : IsDigits cs → IsFraction ('.' :: cs)

inductive IsExponent : List Char → Prop
  | none : IsExponent []
  | plus {cs : List Char} : IsDigits cs → IsExponent ('e' :: '+' :: cs)
  | minus {cs : List Char} : IsDigits cs → IsExponent ('e' :: '-' :: cs)

structure IsDecimal (whole fraction exponent : List Char) : Prop where
  isWhole : IsWhole whole
  isFraction : IsFraction fraction
  isExponent : IsExponent exponent
  not_whole : fraction ≠ [] ∨ exponent ≠ []

def IsDecimalText (cs : List Char) : Prop :=
  ∃ whole fraction exponent, IsDecimal whole fraction exponent ∧ cs = whole ++ (fraction ++ exponent)

section Digits

variable {c : Char} {ds : List Char} {n : Nat}

theorem isAsciiDigit_iff : isAsciiDigit c = true ↔ 48 ≤ c.toNat ∧ c.toNat ≤ 57 := by
  rw [isAsciiDigit, Bool.and_eq_true, decide_eq_true_eq, decide_eq_true_eq]
  exact Iff.rfl

theorem IsDigits.append {es : List Char} (hds : IsDigits ds) (hes : ∀ c ∈ es, isAsciiDigit c = true) :
    IsDigits (ds ++ es) where
  ne_nil := List.append_ne_nil_of_left_ne_nil hds.ne_nil es
  digit c hc := (List.mem_append.mp hc).elim (hds.digit c) (hes c)

theorem isDigits_toDigits (n : Nat) : IsDigits (Nat.toDigits 10 n) where
  ne_nil := Nat.toDigits_ne_nil
  digit c hc := by
    rw [← toList_intText] at hc
    exact isAsciiDigit_iff.mpr (isPlain_of_mem_intText hc)

theorem tenTo_eq (n : Nat) : tenTo n = 10 ^ n := rfl

/-- Only zero is written with a zero in front. -/
theorem head?_toDigits (hn : 0 < n) : (Nat.toDigits 10 n).head? ≠ some '0' := by
  induction n using Nat.strongRecOn with
  | ind n ih =>
    by_cases hsmall : n < 10
    · have hdigits : ∀ k < 10, 0 < k → Nat.digitChar k ≠ '0' := by decide
      rw [Nat.toDigits_of_lt_base hsmall]
      exact fun h => hdigits n hsmall hn (Option.some.inj h)
    · have hfront : 0 < n / 10 := by omega
      have hlast : n % 10 < 10 := Nat.mod_lt n (by decide)
      have hsplit : Nat.toDigits 10 n = Nat.toDigits 10 (n / 10) ++ Nat.toDigits 10 (n % 10) := by
        rw [Nat.toDigits_append_toDigits (by decide) hfront hlast, Nat.div_add_mod]
      rw [hsplit, List.head?_append_of_ne_nil _ Nat.toDigits_ne_nil]
      exact ih (n / 10) (by omega) hfront

theorem isWhole_toDigits (n : Nat) : IsWhole (Nat.toDigits 10 n) where
  toIsDigits := isDigits_toDigits n
  lead h := by
    rcases Nat.eq_zero_or_pos n with rfl | hn
    · rfl
    · exact absurd h (head?_toDigits hn)

theorem isWhole_of_head?_ne (hds : IsDigits ds) (h : ds.head? ≠ some '0') : IsWhole ds where
  toIsDigits := hds
  lead hzero := absurd hzero h

end Digits

theorem IsDecimalText.exists_cons {cs : List Char} (h : IsDecimalText cs) :
    ∃ c rest, isAsciiDigit c = true ∧ cs = c :: rest := by
  obtain ⟨whole, fraction, exponent, h, rfl⟩ := h
  obtain ⟨c, ds, rfl⟩ := List.exists_cons_of_ne_nil h.isWhole.ne_nil
  exact ⟨c, _, h.isWhole.digit c List.mem_cons_self, rfl⟩

/-! ## The shortest digits -/

section Shortest

variable {v : Interval} {m d : Nat} {e s : Int}

theorem scaleTen_fst_pos {num : Nat} (h : 0 < num) (den : Nat) (s : Int) : 0 < (scaleTen num den s).1 := by
  unfold scaleTen
  split
  · exact h
  · exact Nat.mul_pos h (Nat.pow_pos (by decide))

theorem Interval.low_pos (hm : 0 < m) (e : Int) : 0 < (Interval.of m e).low := by
  have htwo (k : Nat) : 0 < twoTo k := Nat.pow_pos (by decide)
  unfold Interval.of
  dsimp only
  refine Nat.mul_pos ?_ ?_
  · split <;> omega
  · split
    · exact htwo _
    · exact Nat.one_pos

/-- Zero is in no interval around a positive number. -/
theorem Interval.not_has_zero (h : 0 < v.low) (s : Int) : v.has 0 s = false := by
  have hlow := scaleTen_fst_pos h v.den s
  unfold Interval.has
  dsimp only
  rw [Nat.zero_mul]
  split
  · simp only [Bool.and_eq_false_iff, decide_eq_false_iff_not]
    omega
  · simp only [Bool.and_eq_false_iff, decide_eq_false_iff_not]
    omega

theorem Interval.onGrid_pos (h : 0 < v.low) (hd : v.onGrid s = some d) : 0 < d := by
  have hpos (k : Nat) (hk : v.has k s = true) : 0 < k := by
    refine Nat.pos_of_ne_zero ?_
    rintro rfl
    rw [v.not_has_zero h] at hk
    cases hk
  unfold Interval.onGrid at hd
  dsimp only at hd
  split at hd
  · rename_i hhas _
    have hfloor := hpos _ hhas
    cases hd
    unfold roundDiv
    dsimp only
    split
    · exact hfloor
    · split <;> omega
  · rename_i hhas _
    cases hd
    exact hpos _ hhas
  · cases hd
    exact Nat.succ_pos _
  · cases hd

/-- The shortest digits are those of a positive number; if there were none they would be a single zero. -/
theorem shortest_cases (hm : 0 < m) (e : Int) : shortest m e = (0, 0) ∨ 0 < (shortest m e).1 := by
  unfold shortest
  dsimp only
  generalize hfound : List.findSome? _ _ = found
  cases found with
  | none => exact Or.inl rfl
  | some pair =>
    obtain ⟨i, -, hi⟩ := List.exists_of_findSome?_eq_some hfound
    obtain ⟨d, hd, rfl⟩ := Option.map_eq_some_iff.mp hi
    exact Or.inr (Interval.onGrid_pos (Interval.low_pos hm e) hd)

theorem significantDigits_eq (n : Nat) :
    ∃ zeros, Nat.toDigits 10 n = significantDigits n ++ zeros ∧ ∀ c ∈ zeros, c = '0' := by
  refine ⟨((Nat.toDigits 10 n).reverse.takeWhile (· == '0')).reverse, ?_, fun c hc => ?_⟩
  · rw [significantDigits, ← List.reverse_append, List.takeWhile_append_dropWhile, List.reverse_reverse]
  · have hzero := List.mem_takeWhile_imp (List.mem_reverse.mp hc)
    exact beq_iff_eq.mp hzero

/-- The digits of a positive number begin with one that is no zero. -/
theorem significantDigits_pos (hd : 0 < d) :
    IsDigits (significantDigits d) ∧ (significantDigits d).head? ≠ some '0' := by
  obtain ⟨zeros, hsplit, hzeros⟩ := significantDigits_eq d
  have hlead := head?_toDigits hd
  have hdigit := (isDigits_toDigits d).digit
  rw [hsplit] at hlead hdigit
  have hne : significantDigits d ≠ [] := by
    intro hnil
    rw [hnil, List.nil_append] at hlead hsplit
    cases zeros with
    | nil => exact Nat.toDigits_ne_nil hsplit
    | cons c zeros => exact hlead (congrArg some (hzeros c List.mem_cons_self))
  rw [List.head?_append_of_ne_nil _ hne] at hlead
  exact ⟨⟨hne, fun c hc => hdigit c (List.mem_append_left _ hc)⟩, hlead⟩

end Shortest

/-! ## Layouts -/

section Layouts

variable {digits : List Char} {n : Nat}

theorem mem_replicate_zero (n : Nat) : ∀ c ∈ List.replicate n '0', isAsciiDigit c = true := fun c hc => by
  rw [(List.mem_replicate.mp hc).2]
  decide

theorem isDigits_zero : IsDigits ['0'] := ⟨List.cons_ne_nil _ _, mem_replicate_zero 1⟩

theorem isWhole_zero : IsWhole ['0'] := ⟨isDigits_zero, fun _ => rfl⟩

/-- The digits of an exponent, a zero in front of a single one. -/
theorem isDigits_size (n : Nat) :
    IsDigits (if (Nat.toDigits 10 n).length < 2 then '0' :: Nat.toDigits 10 n else Nat.toDigits 10 n) := by
  have hsize := isDigits_toDigits n
  split
  · exact isDigits_zero.append hsize.digit
  · exact hsize

/-- The first digits, with zeros where there are no more. -/
theorem isWhole_take (hds : IsDigits digits) (hlead : digits.head? ≠ some '0') (hn : 0 < n) (k : Nat) :
    IsWhole (digits.take n ++ List.replicate k '0') := by
  obtain ⟨m, rfl⟩ := Nat.exists_eq_add_of_le' hn
  have hfront : IsDigits (digits.take (m + 1)) := by
    refine ⟨fun hnil => hds.ne_nil ?_, fun c hc => hds.digit c (List.mem_of_mem_take hc)⟩
    rcases List.take_eq_nil_iff.mp hnil with hzero | hnil
    · cases hzero
    · exact hnil
  refine isWhole_of_head?_ne (hfront.append (mem_replicate_zero k)) ?_
  rwa [List.head?_append_of_ne_nil _ hfront.ne_nil, List.head?_take, if_neg (Nat.succ_ne_zero m)]

/-- The digits behind the first ones, or a zero. -/
theorem isFraction_drop (hds : IsDigits digits) (n : Nat) :
    IsFraction ('.' :: if (digits.drop n).isEmpty then ['0'] else digits.drop n) := by
  split
  · exact .digits isDigits_zero
  · rename_i hsome
    exact .digits ⟨by simpa using hsome, fun c hc => hds.digit c (List.mem_of_mem_drop hc)⟩

/-- The digits behind the first one, if there are any. -/
theorem isFraction_tail (hds : IsDigits digits) :
    IsFraction (if digits.length ≤ 1 then [] else '.' :: digits.drop 1) := by
  split
  · exact .none
  · rename_i hsome
    refine .digits ⟨fun hnil => hsome (List.drop_eq_nil_iff.mp hnil), fun c hc => hds.digit c (List.mem_of_mem_drop hc)⟩

/-- Digits without a zero in front are a number of JSON wherever the point is. -/
theorem isDecimalText_layOut (hds : IsDigits digits) (hlead : digits.head? ≠ some '0') (place : Int) :
    IsDecimalText (layOut digits place) := by
  unfold layOut
  split
  · split
    · have hfraction : IsDigits (List.replicate (-place).toNat '0' ++ digits) :=
        ⟨List.append_ne_nil_of_right_ne_nil _ hds.ne_nil,
          fun c hc => (List.mem_append.mp hc).elim (mem_replicate_zero _ c) (hds.digit c)⟩
      refine ⟨['0'], _, [], ⟨isWhole_zero, .digits hfraction, .none, Or.inl (List.cons_ne_nil _ _)⟩, ?_⟩
      rw [List.append_nil]
      rfl
    · rename_i hplace
      have hwhole := isWhole_take hds hlead (show 0 < place.toNat by omega) (place.toNat - digits.length)
      refine ⟨_, _, [], ⟨hwhole, isFraction_drop hds place.toNat, .none, Or.inl (List.cons_ne_nil _ _)⟩, ?_⟩
      rw [List.append_nil]
  · have hwhole : IsWhole (digits.take 1) := by
      rw [← List.append_nil (digits.take 1)]
      exact isWhole_take hds hlead Nat.one_pos 0
    have hsize := isDigits_size (place - 1).natAbs
    have hexponent : IsExponent ('e' :: (if place - 1 < 0 then '-' else '+') ::
        if (Nat.toDigits 10 (place - 1).natAbs).length < 2 then '0' :: Nat.toDigits 10 (place - 1).natAbs
        else Nat.toDigits 10 (place - 1).natAbs) := by
      by_cases hpower : place - 1 < 0
      · rw [if_pos hpower]
        exact .minus hsize
      · rw [if_neg hpower]
        exact .plus hsize
    refine ⟨_, _, _, ⟨hwhole, isFraction_tail hds, hexponent, Or.inr (List.cons_ne_nil _ _)⟩, ?_⟩
    rw [List.append_assoc]

/-- The digits of a finite number are a number of JSON behind its sign. -/
theorem exists_text_finite (negative : Bool) (m : Nat) (e : Int) :
    ∃ cs, IsDecimalText cs ∧
      (Binary64.text "Infinity" "NaN" (.finite negative m e)).toList = (if negative then ['-'] else []) ++ cs := by
  have hzero : IsDecimalText ['0', '.', '0'] :=
    ⟨['0'], ['.', '0'], [], ⟨isWhole_zero, .digits isDigits_zero, .none, Or.inl (List.cons_ne_nil _ _)⟩, rfl⟩
  rw [Binary64.text, String.toList_ofList]
  refine ⟨_, ?_, rfl⟩
  split
  · exact hzero
  · rename_i hm
    dsimp only
    rcases shortest_cases (Nat.pos_of_ne_zero hm) e with hnone | hpos
    · rw [hnone]
      exact hzero
    · obtain ⟨hds, hlead⟩ := significantDigits_pos hpos
      exact isDecimalText_layOut hds hlead _

end Layouts

end Decimal

namespace Json

/-! ## Printed characters -/

def IsPrinted (c : Char) : Prop := ' ' ≤ c ∧ c ≤ '~'

instance (c : Char) : Decidable (IsPrinted c) := inferInstanceAs (Decidable (_ ∧ _))

section Printed

variable {c : Char} {cs : List Char}

theorem IsPrinted.of_digit (h : isAsciiDigit c = true) : IsPrinted c := by
  obtain ⟨hlow, hhigh⟩ := isAsciiDigit_iff.mp h
  exact ⟨show 32 ≤ c.toNat by omega, show c.toNat ≤ 126 by omega⟩

theorem printed_of_all (h : cs.all (fun c => decide (IsPrinted c)) = true) : ∀ c ∈ cs, IsPrinted c := fun c hc =>
  of_decide_eq_true (List.all_eq_true.mp h c hc)

theorem printed_cons (hc : IsPrinted c) (hcs : ∀ d ∈ cs, IsPrinted d) : ∀ d ∈ c :: cs, IsPrinted d :=
  List.forall_mem_cons.mpr ⟨hc, hcs⟩

theorem printed_append {ds : List Char} (hcs : ∀ d ∈ cs, IsPrinted d) (hds : ∀ d ∈ ds, IsPrinted d) :
    ∀ d ∈ cs ++ ds, IsPrinted d :=
  List.forall_mem_append.mpr ⟨hcs, hds⟩

theorem printed_digits (h : ∀ c ∈ cs, isAsciiDigit c = true) : ∀ c ∈ cs, IsPrinted c := fun c hc => .of_digit (h c hc)

theorem printed_decimal (h : IsDecimalText cs) : ∀ c ∈ cs, IsPrinted c := by
  obtain ⟨whole, fraction, exponent, h, rfl⟩ := h
  refine printed_append (printed_digits h.isWhole.digit) (printed_append ?_ ?_)
  · cases h.isFraction with
    | none => exact fun c hc => absurd hc List.not_mem_nil
    | digits hds => exact printed_cons (by decide) (printed_digits hds.digit)
  · cases h.isExponent with
    | none => exact fun c hc => absurd hc List.not_mem_nil
    | plus hds | minus hds => exact printed_cons (by decide) (printed_cons (by decide) (printed_digits hds.digit))

theorem printed_intChars (n : Int) : ∀ c ∈ intChars n, IsPrinted c := by
  refine printed_append ?_ (printed_digits (isDigits_toDigits n.natAbs).digit)
  split <;> exact printed_of_all rfl

theorem printed_writeFloat (x : Binary64) : ∀ c ∈ writeFloat x, IsPrinted c := by
  cases x with
  | nan => exact printed_of_all rfl
  | infinite negative => cases negative <;> exact printed_of_all rfl
  | finite negative m e =>
    obtain ⟨cs, hcs, htext⟩ := exists_text_finite negative m e
    rw [writeFloat, htext]
    refine printed_append ?_ (printed_decimal hcs)
    cases negative <;> exact printed_of_all rfl

end Printed

/-! ## Reading numbers -/

/-- What may stand behind a value in JSON text: nothing, or what ends an item or a member. -/
def Ends (rest : List Char) : Prop := ∀ c ∈ rest.head?, c = ',' ∨ c = ']' ∨ c = '}'

def NoDigit (cs : List Char) : Prop := ∀ c ∈ cs.head?, isAsciiDigit c = false

def digitValues (ds : List Char) : List Nat := ds.map fun c => c.toNat - 48

section Numbers

variable {negative : Bool} {ds whole fraction exponent tail rest : List Char} {c : Char}

theorem digitValues_ne_nil (hds : IsDigits ds) : digitValues ds ≠ [] := fun h => hds.ne_nil (List.map_eq_nil_iff.mp h)

/-! ### What ends a number -/

theorem Ends.noDigit (h : Ends rest) : NoDigit rest := fun c hc => by
  rcases h c hc with rfl | rfl | rfl <;> decide

theorem Ends.noPoint (h : Ends rest) : rest.head? ≠ some '.' := fun hpoint => by
  rcases h '.' hpoint with hc | hc | hc <;> cases hc

theorem noDigit_exponent (hexponent : IsExponent exponent) (hrest : Ends rest) : NoDigit (exponent ++ rest) := by
  cases hexponent with
  | none => exact hrest.noDigit
  | plus hds | minus hds => exact fun c hc => by cases hc; decide

theorem head?_exponent (hexponent : IsExponent exponent) (hrest : Ends rest) : (exponent ++ rest).head? ≠ some '.' := by
  cases hexponent with
  | none => exact hrest.noPoint
  | plus | minus => exact fun hpoint => by cases hpoint

theorem noDigit_fraction (hfraction : IsFraction fraction) (htail : NoDigit tail) : NoDigit (fraction ++ tail) := by
  cases hfraction with
  | none => exact htail
  | digits hds => exact fun c hc => by cases hc; decide

/-! ### The parts of a number -/

theorem takePlainDigits_append (hds : ∀ c ∈ ds, isAsciiDigit c = true) (htail : NoDigit tail) :
    takePlainDigits (ds ++ tail) = (digitValues ds, tail) := by
  have hnone : tail.takeWhile isAsciiDigit = [] ∧ tail.dropWhile isAsciiDigit = tail := by
    cases tail with
    | nil => exact ⟨rfl, rfl⟩
    | cons c tail =>
      have hc : ¬ isAsciiDigit c = true := by
        rw [htail c rfl]
        exact Bool.false_ne_true
      exact ⟨List.takeWhile_cons_of_neg hc, List.dropWhile_cons_of_neg hc⟩
  rw [takePlainDigits, List.takeWhile_append_of_pos hds, List.dropWhile_append_of_pos hds, hnone.1, hnone.2,
    List.append_nil]
  rfl

/-- The digits in front are taken, a leading zero by itself. -/
theorem takeWhole_append (hwhole : IsWhole whole) (htail : NoDigit tail) :
    (match whole ++ tail with
      | '0' :: rest => ([0], rest)
      | cs => takePlainDigits cs) = (digitValues whole, tail) := by
  cases whole with
  | nil => exact absurd rfl hwhole.ne_nil
  | cons d ds =>
    by_cases hd : d = '0'
    · subst hd
      obtain rfl := (List.cons.inj (hwhole.lead rfl)).2
      rfl
    · rw [List.cons_append]
      split
      · rename_i heq
        exact absurd (List.cons.inj heq).1 hd
      · exact takePlainDigits_append hwhole.digit htail

/-- The fraction that is written is taken, and none where none is. -/
theorem takeFraction_append (hfraction : IsFraction fraction) :
    ∃ ds : Option (List Nat), (ds = none ↔ fraction = []) ∧ ∀ tail, NoDigit tail → tail.head? ≠ some '.' →
      takeFraction (fraction ++ tail) = ds.map (·, tail) := by
  cases hfraction with
  | none =>
    refine ⟨none, by simp, fun tail _ hpoint => ?_⟩
    rw [List.nil_append, takeFraction.eq_def]
    split
    · exact absurd rfl hpoint
    · rfl
  | digits hds =>
    rename_i ds
    refine ⟨some (digitValues ds), by simp, fun tail htail _ => ?_⟩
    rw [List.cons_append, takeFraction, takePlainDigits_append hds.digit htail]
    split
    · rename_i heq
      exact absurd (Prod.mk.inj heq).1 (digitValues_ne_nil hds)
    · rfl

/-- The exponent that is written is taken, and none where none is. -/
theorem takeExponent_append (hexponent : IsExponent exponent) :
    ∃ e : Option Int, (e = none ↔ exponent = []) ∧ ∀ rest, Ends rest →
      takeExponent (exponent ++ rest) = e.map (·, rest) := by
  -- the digits behind the sign
  have hdigits {ds : List Char} (hds : IsDigits ds) (sign : Char) (negative : Bool)
      (hsign : ∀ cs, takeSign (sign :: cs) = (negative, cs)) (rest : List Char) (hrest : Ends rest) :
      takeExponent ('e' :: sign :: ds ++ rest) =
        some (if negative then -(ofDigits (digitValues ds) : Int) else ofDigits (digitValues ds), rest) := by
    rw [List.cons_append, List.cons_append, takeExponent, if_pos (Or.inl rfl), hsign]
    dsimp only
    rw [takePlainDigits_append hds.digit hrest.noDigit]
    split
    · rename_i heq
      exact absurd (Prod.mk.inj heq).1 (digitValues_ne_nil hds)
    · rename_i heq
      cases heq
      rfl
  cases hexponent with
  | none =>
    refine ⟨none, by simp, fun rest hrest => ?_⟩
    cases rest with
    | nil => rfl
    | cons c rest =>
      have hc : ¬ (c = 'e' ∨ c = 'E') := by
        rcases hrest c rfl with rfl | rfl | rfl <;> decide
      rw [List.nil_append, takeExponent, if_neg hc]
      rfl
  | plus hds => exact ⟨some _, by simp, hdigits hds '+' false fun _ => rfl⟩
  | minus hds => exact ⟨some _, by simp, hdigits hds '-' true fun _ => rfl⟩

/-! ### Numbers -/

theorem readNumber_whole (hwhole : IsWhole whole) (hshort : whole.length ≤ maxDigits) (negative : Bool)
    (hrest : Ends rest) :
    readNumber negative (whole ++ rest) =
      .ok (.int (if negative then -(ofDigits (digitValues whole) : Int) else ofDigits (digitValues whole)), rest) := by
  have hne : (digitValues whole).isEmpty = false := by simpa using digitValues_ne_nil hwhole.toIsDigits
  have hlength : ¬ maxDigits < (digitValues whole).length := by
    rw [digitValues, List.length_map]
    exact Nat.not_lt.mpr hshort
  obtain ⟨ds, hds, hfraction⟩ := takeFraction_append .none
  obtain rfl := hds.mpr rfl
  have hfraction : takeFraction rest = none := hfraction rest hrest.noDigit hrest.noPoint
  obtain ⟨e, he, hexponent⟩ := takeExponent_append .none
  obtain rfl := he.mpr rfl
  have hexponent : takeExponent rest = none := hexponent rest hrest
  unfold readNumber
  split
  rename_i values left htaken
  obtain ⟨rfl, rfl⟩ := Prod.mk.inj (htaken.symm.trans (takeWhole_append hwhole hrest.noDigit))
  simp only [hne, Bool.false_eq_true, if_false, hfraction, hexponent, if_neg hlength]

/-- What is read does not depend on what stands behind the number. -/
theorem readNumber_decimal {cs : List Char} (h : IsDecimalText cs) (negative : Bool) :
    ∃ x, ∀ rest, Ends rest → readNumber negative (cs ++ rest) = .ok (.float x, rest) := by
  obtain ⟨whole, fraction, exponent, h, rfl⟩ := h
  have hne : (digitValues whole).isEmpty = false := by simpa using digitValues_ne_nil h.isWhole.toIsDigits
  obtain ⟨ds, hds, hfraction⟩ := takeFraction_append h.isFraction
  obtain ⟨e, he, hexponent⟩ := takeExponent_append h.isExponent
  refine ⟨.ofDecimal negative (ofDigits (digitValues whole ++ ds.getD [])) (e.getD 0 - (ds.getD []).length),
    fun rest hrest => ?_⟩
  have hbehind := noDigit_exponent h.isExponent hrest
  have hfraction := hfraction _ hbehind (head?_exponent h.isExponent hrest)
  have hexponent := hexponent rest hrest
  rw [List.append_assoc, List.append_assoc]
  unfold readNumber
  split
  rename_i values left htaken
  obtain ⟨rfl, rfl⟩ :=
    Prod.mk.inj (htaken.symm.trans (takeWhole_append h.isWhole (noDigit_fraction h.isFraction hbehind)))
  cases ds with
  | none =>
    obtain rfl := hds.mp rfl
    rw [List.nil_append] at hfraction
    cases e with
    | none => exact absurd (he.mp rfl) (h.not_whole.resolve_left fun hf => hf rfl)
    | some e => simp only [hne, Bool.false_eq_true, if_false, hfraction, hexponent, Option.map_none, Option.map_some,
        Option.getD_none, Option.getD_some, List.nil_append]
  | some ds =>
    cases e with
    | none =>
      obtain rfl := he.mp rfl
      rw [List.nil_append] at hexponent hfraction
      simp only [hne, Bool.false_eq_true, if_false, hfraction, hexponent, Option.map_none, Option.map_some,
        Option.getD_none, Option.getD_some, List.nil_append]
    | some e => simp only [hne, Bool.false_eq_true, if_false, hfraction, hexponent, Option.map_some, Option.getD_some]

/-! ### Words and numbers -/

/-- A digit, or a minus sign before one, begins a number. -/
theorem readPlain_digit (hc : isAsciiDigit c = true) (cs : List Char) :
    readPlain (c :: cs) = readNumber false (c :: cs) ∧ readPlain ('-' :: c :: cs) = readNumber true (c :: cs) := by
  have hne (d : Char) (hd : isAsciiDigit d = false) : c ≠ d := by
    rintro rfl
    rw [hc] at hd
    cases hd
  constructor
  · unfold readPlain
    split
    case h_8 => rfl
    all_goals
      rename_i heq
      exact absurd (List.cons.inj heq).1 (hne _ (by decide))
  · unfold readPlain
    split
    case h_6 =>
      rename_i heq
      exact absurd (List.cons.inj (List.cons.inj heq).2).1 (hne _ (by decide))
    case h_7 =>
      rename_i heq
      rw [(List.cons.inj heq).2]
    case h_8 =>
      rename_i hother
      exact absurd rfl (hother _)
    all_goals
      rename_i heq
      exact absurd (List.cons.inj heq).1 (by decide)

/-- A whole number that is not too long is read as itself. -/
theorem readPlain_intChars {n : Int} (hshort : isLong n = false) (hrest : Ends rest) :
    readPlain (intChars n ++ rest) = .ok (.int n, rest) := by
  have hlength : (Nat.toDigits 10 n.natAbs).length ≤ maxDigits := by
    rw [isLong, decide_eq_false_iff_not, Nat.not_le, tenTo_eq] at hshort
    exact Nat.toDigits_length 10 n.natAbs maxDigits (by decide) hshort
  have hread (negative : Bool) := readNumber_whole (isWhole_toDigits n.natAbs) hlength negative hrest
  have hvalue : ofDigits (digitValues (Nat.toDigits 10 n.natAbs)) = n.natAbs := ofDigits_toDigits n.natAbs
  obtain ⟨c, cs, hcs⟩ := List.exists_cons_of_ne_nil (isDigits_toDigits n.natAbs).ne_nil
  have hc : isAsciiDigit c = true := (isDigits_toDigits n.natAbs).digit c (hcs ▸ List.mem_cons_self)
  rw [hvalue] at hread
  rw [hcs] at hread
  rw [intChars, hcs]
  by_cases hn : n < 0
  · rw [if_pos hn]
    have hself : -(n.natAbs : Int) = n := by omega
    show readPlain ('-' :: c :: (cs ++ rest)) = _
    rw [(readPlain_digit hc _).2]
    exact (hread true).trans (by rw [if_pos rfl, hself])
  · rw [if_neg hn]
    have hself : (n.natAbs : Int) = n := by omega
    show readPlain (c :: (cs ++ rest)) = _
    rw [(readPlain_digit hc _).1]
    exact (hread false).trans (by rw [if_neg Bool.false_ne_true, hself])

/-- A floating-point number is read as one, whatever stands behind it. -/
theorem readPlain_writeFloat (x : Binary64) :
    ∃ y, ∀ rest, Ends rest → readPlain (writeFloat x ++ rest) = .ok (.float y, rest) := by
  cases x with
  | nan => exact ⟨.nan, fun _ _ => rfl⟩
  | infinite negative => cases negative <;> exact ⟨_, fun _ _ => rfl⟩
  | finite negative m e =>
    obtain ⟨cs, hcs, htext⟩ := exists_text_finite negative m e
    obtain ⟨y, hread⟩ := readNumber_decimal hcs negative
    obtain ⟨c, ds, hc, hcons⟩ := hcs.exists_cons
    refine ⟨y, fun rest hrest => ?_⟩
    rw [writeFloat, htext, ← hread rest hrest, hcons]
    cases negative with
    | false => exact (readPlain_digit hc _).1
    | true => exact (readPlain_digit hc _).2

end Numbers

end Json

end DocumentStore
