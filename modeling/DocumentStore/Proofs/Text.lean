/-
  DocumentStore.Proofs.Text — texts that are cut, and texts made of digits.

  A text is cut at the first separator, so what stands before it and holds none is given back
  (`cut_append`). What begins and ends with texts that are trimmed already is trimmed, whatever stands
  between them (`trim_append`). A row of digits of any script is read as the number it writes, if each of
  them stands for a value and they are not too many, and else not at all (`readInt_eq_ok_iff`); so a whole
  number that is written out is read as the number it is (`readInt_intText`). A digest is written in sixteen
  digits that letter case makes no difference to (`fold_hexText`).
-/

import DocumentStore.Decimal.Numeral
import DocumentStore.Decimal.Shortest
import DocumentStore.Digest.Sha256
import DocumentStore.Text.Case
import DocumentStore.Text.Split
import Mathlib.Data.List.Basic
import Mathlib.Data.List.TakeWhile

namespace DocumentStore

namespace Text

/-! ## Cutting -/

theorem cut_append {sep : Char} {before : List Char} (h : sep ∉ before) (after : List Char) :
    cut sep (before ++ sep :: after) = some (before, after) := by
  induction before with
  | nil => simp [cut]
  | cons c rest ih =>
    obtain ⟨hc, hrest⟩ : sep ≠ c ∧ sep ∉ rest := by simpa using h
    rw [List.cons_append, cut, if_neg (Ne.symm hc), ih hrest]
    rfl

theorem eq_of_cut {sep : Char} {cs before after : List Char} (h : cut sep cs = some (before, after)) :
    cs = before ++ sep :: after := by
  induction cs generalizing before with
  | nil => cases h
  | cons c rest ih =>
    rw [cut] at h
    split at h
    · rename_i hc
      cases h
      rw [hc, List.nil_append]
    · obtain ⟨⟨front, back⟩, hcut, he⟩ := Option.map_eq_some_iff.mp h
      cases he
      rw [ih hcut, List.cons_append]

theorem not_mem_of_cut {sep : Char} {cs before after : List Char} (h : cut sep cs = some (before, after)) :
    sep ∉ before := by
  induction cs generalizing before with
  | nil => cases h
  | cons c rest ih =>
    rw [cut] at h
    split at h
    · cases h
      exact List.not_mem_nil
    · rename_i hc
      obtain ⟨⟨front, back⟩, hcut, he⟩ := Option.map_eq_some_iff.mp h
      cases he
      exact List.not_mem_cons_of_ne_of_not_mem (Ne.symm hc) (ih hcut)

/-! ## Trimming -/

section Trimming

variable {p : Char → Bool} {c : Char} {a b cs : List Char}

theorem dropEndWhile_eq_self (h : ∀ c ∈ cs, p c = false) : dropEndWhile p cs = cs := by
  induction cs with
  | nil => rfl
  | cons c rest ih =>
    rw [dropEndWhile, ih fun d hd => h d (List.mem_cons_of_mem c hd)]
    cases rest with
    | nil => simp [h c List.mem_cons_self]
    | cons d ds => rfl

theorem dropWhile_eq_self (h : ∀ c ∈ cs, p c = false) : cs.dropWhile p = cs := by
  cases cs with
  | nil => rfl
  | cons c rest => simp [h c List.mem_cons_self]

/-- A text without blanks is trimmed already. -/
theorem trim_eq_self (h : ∀ c ∈ cs, isBlank c = false) : trim cs = cs := by
  rw [trim, dropWhile_eq_self h, dropEndWhile_eq_self h]

theorem dropEndWhile_append (h : dropEndWhile p b ≠ []) : dropEndWhile p (a ++ b) = a ++ dropEndWhile p b := by
  induction a with
  | nil => rfl
  | cons c a ih =>
    rw [List.cons_append, dropEndWhile, ih]
    split
    · rename_i hnil
      exact absurd (List.append_eq_nil_iff.mp hnil).2 h
    · rfl

theorem isPrefix_dropEndWhile (p : Char → Bool) (cs : List Char) : dropEndWhile p cs <+: cs := by
  induction cs with
  | nil => exact List.prefix_refl []
  | cons c cs ih =>
    rw [dropEndWhile]
    split
    · split
      · exact List.nil_prefix
      · exact ⟨cs, rfl⟩
    · exact List.cons_prefix_cons.mpr ⟨rfl, ih⟩

theorem dropEndWhile_idem (p : Char → Bool) (cs : List Char) :
    dropEndWhile p (dropEndWhile p cs) = dropEndWhile p cs := by
  induction cs with
  | nil => rfl
  | cons c cs ih =>
    cases hrest : dropEndWhile p cs with
    | nil => cases hc : p c <;> simp [dropEndWhile, hrest, hc]
    | cons d ds =>
      have hcons : ∀ bs, dropEndWhile p bs = d :: ds → dropEndWhile p (c :: bs) = c :: d :: ds := by
        intro bs hbs
        rw [dropEndWhile, hbs]
      rw [hrest] at ih
      rw [hcons cs hrest, hcons (d :: ds) ih]

/-- A text is trimmed if nothing comes off either end. -/
theorem trim_eq_self_iff :
    trim cs = cs ↔ (∀ c, cs.head? = some c → isBlank c = false) ∧ dropEndWhile isBlank cs = cs := by
  cases cs with
  | nil => simp [trim, dropEndWhile]
  | cons c rest =>
    simp only [List.head?_cons, Option.some.injEq, forall_eq']
    cases hc : isBlank c with
    | false => simp [trim, hc]
    | true =>
      have hshort : (trim (c :: rest)).length < (c :: rest).length := by
        rw [trim, List.dropWhile_cons_of_pos hc, List.length_cons]
        exact Nat.lt_succ_of_le (Nat.le_trans (isPrefix_dropEndWhile _ _).length_le (List.dropWhile_sublist isBlank).length_le)
      constructor
      · intro h
        rw [h] at hshort
        exact absurd hshort (Nat.lt_irrefl _)
      · rintro ⟨h, -⟩
        cases h

/-- What was trimmed is trimmed. -/
theorem trim_trim (cs : List Char) : trim (trim cs) = trim cs := by
  rw [trim_eq_self_iff, trim]
  refine ⟨fun c hc => ?_, dropEndWhile_idem isBlank _⟩
  obtain ⟨back, hback⟩ := isPrefix_dropEndWhile isBlank (cs.dropWhile isBlank)
  have hhead : (cs.dropWhile isBlank).head? = some c := by
    rw [← hback, List.head?_append, hc]
    rfl
  have hnot := List.head?_dropWhile_not isBlank cs
  rwa [hhead] at hnot

theorem isInfix_trim (cs : List Char) : trim cs <:+: cs :=
  (isPrefix_dropEndWhile isBlank _).isInfix.trans (List.dropWhile_suffix isBlank).isInfix

/-- What begins and ends with trimmed texts is trimmed. -/
theorem trim_append (ha : trim a = a) (hb : trim b = b) (hane : a ≠ []) (hbne : b ≠ []) (mid : List Char) :
    trim (a ++ mid ++ b) = a ++ mid ++ b := by
  obtain ⟨hhead, -⟩ := trim_eq_self_iff.mp ha
  obtain ⟨-, hend⟩ := trim_eq_self_iff.mp hb
  rw [trim_eq_self_iff]
  constructor
  · intro c hc
    obtain ⟨d, rest, rfl⟩ := List.exists_cons_of_ne_nil hane
    exact hhead c hc
  · rw [dropEndWhile_append (by rwa [hend]), hend]

theorem dropEndWhile_concat (hc : p c = true) (a : List Char) : dropEndWhile p (a ++ [c]) = dropEndWhile p a := by
  induction a with
  | nil => simp [dropEndWhile, hc]
  | cons d a ih => rw [List.cons_append, dropEndWhile, dropEndWhile, ih]

/-- A blank at the end comes off. -/
theorem trim_concat_blank (hc : isBlank c = true) (a : List Char) : trim (a ++ [c]) = trim a := by
  rw [trim, trim, List.dropWhile_append]
  split
  · rename_i hall
    rw [List.isEmpty_iff.mp hall, List.dropWhile_cons_of_pos hc, List.dropWhile_nil]
  · exact dropEndWhile_concat hc _

theorem trim_cons_blank (hc : isBlank c = true) (a : List Char) : trim (c :: a) = trim a := by
  rw [trim, trim, List.dropWhile_cons_of_pos hc]

end Trimming

/-! ## Digits and blanks -/

def blankCodes : List Nat :=
  List.range' 9 5 ++ List.range' 28 5 ++ [0x85, 0xa0, 0x1680] ++ List.range' 0x2000 11 ++
    [0x2028, 0x2029, 0x202f, 0x205f, 0x3000]

theorem mem_blankCodes {c : Char} (h : isBlank c = true) : c.toNat ∈ blankCodes := by
  simp only [isBlank, Bool.or_eq_true, Bool.and_eq_true, decide_eq_true_eq, beq_iff_eq] at h
  simp only [blankCodes, List.mem_append, List.mem_range'_1, List.mem_cons, List.not_mem_nil, or_false]
  omega

theorem not_isBlank_of_isDigit {c : Char} (h : isDigit c = true) : isBlank c = false := by
  have hcodes : ∀ n ∈ blankCodes, isDigit (Char.ofNat n) = false := by decide +kernel
  cases hblank : isBlank c with
  | false => rfl
  | true =>
    have hno := hcodes c.toNat (mem_blankCodes hblank)
    rw [Char.ofNat_toNat, h] at hno
    cases hno

/-! ## Hexadecimal digits -/

theorem mem_hex {width n : Nat} {c : Char} (h : c ∈ hex width n) : ∃ k < 16, c = hexDigit k := by
  induction width generalizing n with
  | zero => cases h
  | succ width ih =>
    rw [hex, List.mem_append, List.mem_singleton] at h
    rcases h with h | rfl
    · exact ih h
    · exact ⟨n % 16, Nat.mod_lt n (by decide), by simp only [hexDigit, Nat.mod_mod]⟩

theorem foldChars_eq_self {cs : List Char} (h : ∀ c ∈ cs, foldChar c = [c]) : foldChars cs = cs := by
  induction cs with
  | nil => rfl
  | cons c rest ih =>
    obtain ⟨hc, hrest⟩ := List.forall_mem_cons.mp h
    have hfold : foldChars (c :: rest) = foldChar c ++ foldChars rest := rfl
    rw [hfold, hc, ih hrest]
    rfl

end Text

namespace Digest

theorem mem_hexText {s : State} {c : Char} (h : c ∈ s.hexText.toList) : ∃ k < 16, c = Text.hexDigit k := by
  rw [State.hexText, String.toList_ofList, List.mem_flatMap] at h
  obtain ⟨w, -, hw⟩ := h
  exact Text.mem_hex hw

theorem fold_hexText (s : State) : Text.fold s.hexText = s.hexText := by
  have hdigits : ∀ k < 16, Text.foldChar (Text.hexDigit k) = [Text.hexDigit k] := by decide
  have hfold : Text.foldChars s.hexText.toList = s.hexText.toList := by
    apply Text.foldChars_eq_self
    intro c hc
    obtain ⟨k, hk, rfl⟩ := mem_hexText hc
    exact hdigits k hk
  rw [Text.fold, hfold, String.ofList_toList]

theorem hexText_ascii {s : State} {c : Char} (h : c ∈ s.hexText.toList) : c.toNat < 128 := by
  have hdigits : ∀ k < 16, (Text.hexDigit k).toNat < 128 := by decide
  obtain ⟨k, hk, rfl⟩ := mem_hexText h
  exact hdigits k hk

theorem hexText_ne_empty (s : State) : s.hexText ≠ "" := by
  intro h
  have hempty := congrArg String.toList h
  rw [State.hexText, String.toList_ofList] at hempty
  simp [State.words, Text.hex] at hempty

end Digest

namespace Decimal

open Text

/-! ## Decimal digits -/

section Digits

variable {c : Char} {d : Nat} {cs : List Char} {text : String}

theorem decimalValue?_le (h : decimalValue? c = some d) : d ≤ 9 := by
  unfold decimalValue? at h
  dsimp only at h
  split at h
  · split at h
    · cases h
      omega
    · cases h
  · obtain ⟨z, hz, rfl⟩ := Option.map_eq_some_iff.mp h
    have hrow := Array.find?_some hz
    simp only [Bool.and_eq_true, decide_eq_true_eq] at hrow
    omega

/-- A digit is read as the plain digit of its value, if it has one. -/
theorem plainChar_of_isDigit (h : isDigit c = true) :
    plainChar c = ((decimalValue? c).map asciiDigit).getD '?' := by
  rw [plainChar]
  split
  · rename_i hascii
    have hnone : ∀ n < 128, otherDigitRanges.has n = false := by decide +kernel
    rw [isDigit, hnone c.toNat hascii, Bool.or_false] at h
    simp only [decimalValue?, if_pos hascii] at h ⊢
    split at h
    · rename_i hrange
      have hcode : 48 + (c.toNat - 48) % 10 = c.toNat := by omega
      rw [if_pos hrange, Option.map_some, Option.getD_some, asciiDigit, hcode, Char.ofNat_toNat]
    · cases h
  · rw [not_isBlank_of_isDigit h]
    cases decimalValue? c <;> rfl

theorem plainChar_cases (h : isDigit c = true) :
    (∃ d ≤ 9, decimalValue? c = some d ∧ plainChar c = asciiDigit d) ∨
      (decimalValue? c = none ∧ plainChar c = '?') := by
  have hchar := plainChar_of_isDigit h
  cases hvalue : decimalValue? c with
  | none => exact .inr ⟨rfl, by rw [hchar, hvalue]; rfl⟩
  | some d => exact .inl ⟨d, decimalValue?_le hvalue, rfl, by rw [hchar, hvalue]; rfl⟩

/-- A digit is read as a character that is no blank and no sign. -/
theorem plainChar_no_sign (h : isDigit c = true) : isNumberBlank (plainChar c) = false ∧ plainChar c ∉ ['-', '+'] := by
  have hdigits : ∀ d ≤ 9, isNumberBlank (asciiDigit d) = false ∧ asciiDigit d ∉ ['-', '+'] := by decide
  obtain ⟨d, hd, -, hchar⟩ | ⟨-, hchar⟩ := plainChar_cases h
  · rw [hchar]
    exact hdigits d hd
  · rw [hchar]
    decide

/-- Digits are taken up to the first one without a value. -/
theorem takeDigits_of_isDigit (h : ∀ c ∈ cs, isDigit c = true) (mid : Bool) :
    takeDigits mid (cs.map plainChar) =
      ((cs.takeWhile fun c => (decimalValue? c).isSome).filterMap decimalValue?,
        (cs.dropWhile fun c => (decimalValue? c).isSome).map plainChar) := by
  induction cs generalizing mid with
  | nil => rfl
  | cons c rest ih =>
    obtain ⟨hc, hrest⟩ := List.forall_mem_cons.mp h
    have hdigits : ∀ d ≤ 9, ('0' ≤ asciiDigit d ∧ asciiDigit d ≤ '9') ∧ (asciiDigit d).toNat - 48 = d := by decide
    obtain ⟨d, hd, hvalue, hchar⟩ | ⟨hvalue, hchar⟩ := plainChar_cases hc
    · obtain ⟨hrange, hback⟩ := hdigits d hd
      rw [List.map_cons, hchar, takeDigits, if_pos hrange, ih hrest, hback]
      simp [hvalue]
    · rw [List.map_cons, hchar, takeDigits, if_neg (by decide), if_neg (by simp)]
      simp [hvalue, hchar]

theorem plainNumeral_of_isDigit (h : ∀ c ∈ text.toList, isDigit c = true) :
    plainNumeral text = text.toList.map plainChar := by
  have hblank : ∀ p ∈ text.toList.map plainChar, isNumberBlank p = false :=
    List.forall_mem_map.mpr fun c hc => (plainChar_no_sign (h c hc)).1
  rw [plainNumeral, dropWhile_eq_self hblank, dropEndWhile_eq_self hblank]

theorem takeSign_eq_self (h : ∀ c ∈ cs, c ∉ ['-', '+']) : takeSign cs = (false, cs) := by
  unfold takeSign
  split
  · exact absurd (h '-' List.mem_cons_self) (by decide)
  · exact absurd (h '+' List.mem_cons_self) (by decide)
  · rfl

/-- The text is decimal digits, of any script, and `n` is the number that they write. -/
structure Writes (text : String) (n : Nat) : Prop where
  decimal : ∀ c ∈ text.toList, (decimalValue? c).isSome = true
  value : ofDigits (text.toList.filterMap decimalValue?) = n

/-- A row of digits is read as a number exactly if all of them stand for a value and they are not too many. -/
theorem readInt_eq_ok_iff (h : ∀ c ∈ text.toList, isDigit c = true) (hne : text ≠ "") {z : Int} :
    readInt text = .ok z ↔ ∃ n : Nat, Writes text n ∧ text.length ≤ maxDigits ∧ z = n := by
  have hplain : ∀ p ∈ text.toList.map plainChar, p ∉ ['-', '+'] :=
    List.forall_mem_map.mpr fun c hc => (plainChar_no_sign (h c hc)).2
  rw [readInt, plainNumeral_of_isDigit h, takeSign_eq_self hplain]
  dsimp only
  rw [takeDigits_of_isDigit h]
  dsimp only
  by_cases hdecimal : ∀ c ∈ text.toList, (decimalValue? c).isSome = true
  · have hlength : (text.toList.filterMap decimalValue?).length = text.length := by
      rw [List.filterMap_length_eq_length.mpr hdecimal, String.length_toList]
    have hsome : text.toList.filterMap decimalValue? ≠ [] := by
      rw [← List.length_pos_iff, hlength, ← String.length_toList, List.length_pos_iff]
      simpa using hne
    rw [List.takeWhile_eq_self_iff.mpr hdecimal, List.dropWhile_eq_nil_iff.mpr hdecimal, hlength, if_neg (by simp [hsome])]
    constructor
    · intro hread
      split at hread
      · cases hread
      · rename_i hshort
        exact ⟨_, ⟨hdecimal, rfl⟩, Nat.not_lt.mp hshort, (Except.ok.inj hread).symm⟩
    · rintro ⟨n, ⟨-, rfl⟩, hshort, rfl⟩
      rw [if_neg (Nat.not_lt.mpr hshort)]
      rfl
  · -- What is left begins with a digit that has no value, so nothing is read.
    have hrest : text.toList.dropWhile (fun c => (decimalValue? c).isSome) ≠ [] :=
      fun hnil => hdecimal (List.dropWhile_eq_nil_iff.mp hnil)
    constructor
    · intro hread
      split at hread
      · cases hread
      split at hread
      · cases hread
      · rw [if_neg (by simpa using hrest)] at hread
        cases hread
    · rintro ⟨n, hwrites, -⟩
      exact absurd hwrites.decimal hdecimal

end Digits

/-! ## Numbers written out -/

section Written

variable {c : Char} {n : Nat}

def IsPlain (c : Char) : Prop := 48 ≤ c.toNat ∧ c.toNat ≤ 57

theorem IsPlain.value (h : IsPlain c) : decimalValue? c = some (c.toNat - 48) := by
  obtain ⟨hlow, hhigh⟩ := h
  simp only [decimalValue?, if_pos (show c.toNat < 128 by omega), if_pos (And.intro hlow hhigh)]

theorem IsPlain.isDigit (h : IsPlain c) : Text.isDigit c = true := by simp [Text.isDigit, h.value]

theorem toList_intText (n : Nat) : (intText n).toList = Nat.toDigits 10 n := by simp [intText, intChars]

theorem isPlain_of_mem_intText (h : c ∈ (intText n).toList) : IsPlain c := by
  rw [toList_intText] at h
  have hdigit := Nat.isDigit_of_mem_toDigits (by omega) (by omega) h
  simp only [Char.isDigit, Bool.and_eq_true, decide_eq_true_eq] at hdigit
  obtain ⟨hlow, hhigh⟩ := hdigit
  exact ⟨hlow, hhigh⟩

theorem intText_ne_empty (n : Nat) : intText n ≠ "" := by
  intro h
  have hnil := congrArg String.toList h
  rw [toList_intText] at hnil
  exact Nat.toDigits_ne_nil hnil

theorem ofDigits_toDigits (n : Nat) : ofDigits ((Nat.toDigits 10 n).map fun c => c.toNat - 48) = n := by
  rw [ofDigits, List.foldl_map]
  exact Nat.ofDigitChars_ten_toDigits

theorem writes_intText (n : Nat) : Writes (intText n) n where
  decimal c hc := by rw [(isPlain_of_mem_intText hc).value, Option.isSome_some]
  value := by
    have hvalues : (intText n).toList.filterMap decimalValue? = (intText n).toList.map fun c => c.toNat - 48 := by
      rw [← List.filterMap_eq_map]
      exact List.filterMap_congr fun c hc => (isPlain_of_mem_intText hc).value
    rw [hvalues, toList_intText, ofDigits_toDigits]

/-- A whole number that is not too long is read as it is written. -/
theorem readInt_intText (hshort : (intText n).length ≤ maxDigits) : readInt (intText n) = .ok n :=
  (readInt_eq_ok_iff (fun _ hc => (isPlain_of_mem_intText hc).isDigit) (intText_ne_empty n)).mpr
    ⟨n, writes_intText n, hshort, rfl⟩

end Written

end Decimal

end DocumentStore
