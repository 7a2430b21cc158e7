/-
  DocumentStore.Proofs.JsonText — a text is read back from the JSON that writes it.

  Every character is written by itself or by an escape, and read as what was written
  (`readTextFrom_escapeChar`). Only surrogates that stand alone have a memory: a high one, once read, waits
  for what comes next, and a low one that follows it is read with it as one character (`joinPairs`). So the
  JSON of a text writes that text exactly if it has no such pair of halves (`joinPairs_eq_self_iff`), as no
  text that came of octets has.
-/

import DocumentStore.Json.Read
import DocumentStore.Json.Write
import DocumentStore.Proofs.Text

namespace DocumentStore

/-! ## The numbers of characters -/

namespace Text

section Codes

variable {c : Char} {n : Nat}

theorem toNat_ofNat (h : n.isValidChar) : (Char.ofNat n).toNat = n := by
  rw [Char.ofNat, dif_pos h]
  rfl

theorem isSurrogate_iff : isSurrogate n = true ↔ 0xd800 ≤ n ∧ n < 0xe000 := by simp [isSurrogate]

theorem isHighSurrogate_iff : isHighSurrogate n = true ↔ 0xd800 ≤ n ∧ n < 0xdc00 := by simp [isHighSurrogate]

theorem isLowSurrogate_iff : isLowSurrogate n = true ↔ 0xdc00 ≤ n ∧ n < 0xe000 := by simp [isLowSurrogate]

/-- A surrogate is a high one or a low one. -/
theorem isSurrogate_iff_half : isSurrogate n = true ↔ isHighSurrogate n = true ∨ isLowSurrogate n = true := by
  rw [isSurrogate_iff, isHighSurrogate_iff, isLowSurrogate_iff]
  omega

theorem not_half_of_not_surrogate (h : isSurrogate n = false) :
    ¬ isHighSurrogate n = true ∧ ¬ isLowSurrogate n = true := by
  rw [← not_or, ← isSurrogate_iff_half, h]
  exact Bool.false_ne_true

theorem not_high_of_low (h : isLowSurrogate n = true) : ¬ isHighSurrogate n = true := by
  rw [isLowSurrogate_iff] at h
  rw [isHighSurrogate_iff]
  omega

theorem toNat_valid (c : Char) : c.toNat < 0xd800 ∨ (0xdfff < c.toNat ∧ c.toNat < 0x110000) := c.valid

theorem isLone_iff : isLone c = true ↔ 0xd800 + surrogateShift ≤ c.toNat ∧ c.toNat < 0xe000 + surrogateShift := by
  rw [isLone, isSurrogate_iff]
  omega

/-- What a character stands for is its own number, unless that is a surrogate. -/
theorem codeOf_of_not_surrogate (h : isSurrogate (codeOf c) = false) : codeOf c = c.toNat := by
  rw [codeOf] at h ⊢
  split
  · rename_i hlone
    rw [if_pos hlone] at h
    exact absurd hlone (by rw [isLone, h]; exact Bool.false_ne_true)
  · rfl

theorem charOfCode_codeOf (c : Char) : charOfCode (codeOf c) = c := by
  rw [codeOf]
  split
  · rename_i hlone
    have hsurrogate : isSurrogate (c.toNat - surrogateShift) = true := hlone
    rw [charOfCode, if_pos hsurrogate, Nat.sub_add_cancel, Char.ofNat_toNat]
    exact Nat.le_trans (Nat.le_add_left _ _) (isLone_iff.mp hlone).1
  · have hno : ¬ isSurrogate c.toNat = true := by
      rw [isSurrogate_iff]
      have hvalid := toNat_valid c
      omega
    rw [charOfCode, if_neg hno, Char.ofNat_toNat]

theorem codeOf_charOfCode (h : isSurrogate n = true) : codeOf (charOfCode n) = n := by
  have hrange := isSurrogate_iff.mp h
  have hvalid : (n + surrogateShift).isValidChar := Or.inr (by unfold surrogateShift; omega)
  rw [charOfCode, if_pos h, codeOf, isLone, toNat_ofNat hvalid, Nat.add_sub_cancel, if_pos h]

end Codes

/-! ## Halves of characters -/

/-- The characters with each two halves that belong together made one. -/
def joinPairs : List Char → List Char
  | [] => []
  | [c] => [c]
  | c :: d :: cs =>
    if isHighSurrogate (codeOf c) ∧ isLowSurrogate (codeOf d) then
      pairChar (codeOf c) (codeOf d) :: joinPairs cs
    else c :: joinPairs (d :: cs)

def NoPairs (cs : List Char) : Prop :=
  cs.IsChain fun c d => ¬ (isHighSurrogate (codeOf c) = true ∧ isLowSurrogate (codeOf d) = true)

instance (cs : List Char) : Decidable (NoPairs cs) := inferInstanceAs (Decidable (List.IsChain _ cs))

section Halves

variable {c : Char} {cs : List Char}

theorem length_joinPairs_le (cs : List Char) : (joinPairs cs).length ≤ cs.length := by
  fun_induction joinPairs cs with
  | case1 => exact Nat.le_refl 0
  | case2 => exact Nat.le_refl 1
  | case3 c d cs h ih =>
    simp only [List.length_cons]
    omega
  | case4 c d cs h ih => simpa using ih

theorem joinPairs_eq_self_iff : joinPairs cs = cs ↔ NoPairs cs := by
  fun_induction joinPairs cs with
  | case1 => simp [NoPairs]
  | case2 c => simp [NoPairs]
  | case3 c d cs h ih =>
    have hshort := length_joinPairs_le cs
    constructor
    · intro he
      have hlength := congrArg List.length he
      simp only [List.length_cons] at hlength
      omega
    · intro hpairs
      exact absurd h (List.isChain_cons_cons.mp hpairs).1
  | case4 c d cs h ih =>
    rw [List.cons.injEq, ih, NoPairs, NoPairs, List.isChain_cons_cons]
    simp [h]

theorem joinPairs_cons_of_not_high (h : ¬ isHighSurrogate (codeOf c) = true) (cs : List Char) :
    joinPairs (c :: cs) = c :: joinPairs cs := by
  cases cs with
  | nil => rfl
  | cons d cs => rw [joinPairs, if_neg fun hp => h hp.1]

theorem joinPairs_cons_of_not_low {d : Char} (h : ¬ isLowSurrogate (codeOf d) = true) (cs : List Char) :
    joinPairs (c :: d :: cs) = c :: joinPairs (d :: cs) := by
  rw [joinPairs, if_neg fun hp => h hp.2]

/-- A character that is no half stays by itself, whatever half is before it. -/
theorem joinPairs_append_cons (hc : isSurrogate (codeOf c) = false) (half : Option Char) (cs : List Char) :
    joinPairs (half.toList ++ c :: cs) = half.toList ++ c :: joinPairs cs := by
  obtain ⟨hhigh, hlow⟩ := not_half_of_not_surrogate hc
  cases half with
  | none => exact joinPairs_cons_of_not_high hhigh cs
  | some h =>
    show joinPairs (h :: c :: cs) = h :: c :: joinPairs cs
    rw [joinPairs_cons_of_not_low hlow, joinPairs_cons_of_not_high hhigh]

end Halves

def joined (s : String) : String := String.ofList (joinPairs s.toList)

theorem joined_eq_self_iff {s : String} : joined s = s ↔ NoPairs s.toList := by
  rw [joined, ← joinPairs_eq_self_iff, ← String.toList_inj, String.toList_ofList]

/-! ## Four digits -/

theorem hexValue?_hexDigit (n : Nat) : hexValue? (hexDigit n) = some (n % 16) := by
  have hdigits : ∀ k < 16, hexValue? (hexDigit k) = some k := by decide
  have hmod : hexDigit n = hexDigit (n % 16) := by simp only [hexDigit, Nat.mod_mod]
  rw [hmod, hdigits _ (Nat.mod_lt n (by decide))]

theorem hex_four (n : Nat) :
    hex 4 n = [hexDigit (n / 16 / 16 / 16), hexDigit (n / 16 / 16), hexDigit (n / 16), hexDigit n] := rfl

end Text

namespace Json

open Text

theorem unitValue?_hexDigits {n : Nat} (h : n < 0x10000) :
    unitValue? (hexDigit (n / 16 / 16 / 16)) (hexDigit (n / 16 / 16)) (hexDigit (n / 16)) (hexDigit n) = some n := by
  simp only [unitValue?, hexValue?_hexDigit, Option.some.injEq]
  omega

/-! ## Reading what was written -/

section Reading

variable {c : Char} {n : Nat} {high : Option Nat} {tail : List Char}

/-- A unit is read by itself, or with the high surrogate that came before it. -/
theorem readTextFrom_escapeUnit (hn : n < 0x10000) (htail : tail ≠ []) :
    readTextFrom high (escapeUnit n ++ tail) =
      match high with
      | some h =>
        if isLowSurrogate n then (readTextFrom none tail).map fun (t, r) => (pairChar h n :: t, r)
        else if isHighSurrogate n then (readTextFrom (some n) tail).map fun (t, r) => (charOfCode h :: t, r)
        else (readTextFrom none tail).map fun (t, r) => (charOfCode h :: charOfCode n :: t, r)
      | none =>
        if isHighSurrogate n then readTextFrom (some n) tail
        else (readTextFrom none tail).map fun (t, r) => (charOfCode n :: t, r) := by
  have htail : tail.isEmpty = false := by simpa using htail
  rw [escapeUnit, hex_four]
  simp only [List.cons_append, List.nil_append]
  rw [readTextFrom, unitValue?_hexDigits hn]
  cases high <;> simp only [htail, Bool.false_eq_true, if_false]

/-- A unit that is no half is read as its character. -/
theorem readTextFrom_unit (hn : n < 0x10000) (hno : isSurrogate n = false) (htail : tail ≠ []) :
    readTextFrom high (escapeUnit n ++ tail) =
      (readTextFrom none tail).map fun (t, r) => ((high.map charOfCode).toList ++ charOfCode n :: t, r) := by
  obtain ⟨hhigh, hlow⟩ := not_half_of_not_surrogate hno
  rw [readTextFrom_escapeUnit hn htail]
  cases high with
  | none => simp only [if_neg hhigh, Option.map_none, Option.toList_none, List.nil_append]
  | some h => simp only [if_neg hlow, if_neg hhigh, Option.map_some, Option.toList_some, List.singleton_append]

/-- A high surrogate waits for what comes next, and the one before it stands alone. -/
theorem readTextFrom_high (hn : isHighSurrogate n = true) (htail : tail ≠ []) :
    readTextFrom high (escapeUnit n ++ tail) =
      (readTextFrom (some n) tail).map fun (t, r) => ((high.map charOfCode).toList ++ t, r) := by
  have hlow : ¬ isLowSurrogate n = true := fun h => not_high_of_low h hn
  have hshort := isHighSurrogate_iff.mp hn
  rw [readTextFrom_escapeUnit (by omega) htail]
  cases high with
  | none =>
    simp only [if_pos hn, Option.map_none, Option.toList_none, List.nil_append]
    cases readTextFrom (some n) tail <;> rfl
  | some h => simp only [if_neg hlow, if_pos hn, Option.map_some, Option.toList_some, List.singleton_append]

/-- A low surrogate without a high one before it stands alone. -/
theorem readTextFrom_low (hn : isLowSurrogate n = true) (htail : tail ≠ []) :
    readTextFrom none (escapeUnit n ++ tail) = (readTextFrom none tail).map fun (t, r) => (charOfCode n :: t, r) := by
  have hshort := isLowSurrogate_iff.mp hn
  rw [readTextFrom_escapeUnit (by omega) htail]
  simp only [if_neg (not_high_of_low hn)]

/-- A low surrogate is read with the high one before it. -/
theorem readTextFrom_pair (hn : isLowSurrogate n = true) (h : Nat) (htail : tail ≠ []) :
    readTextFrom (some h) (escapeUnit n ++ tail) =
      (readTextFrom none tail).map fun (t, r) => (pairChar h n :: t, r) := by
  have hshort := isLowSurrogate_iff.mp hn
  rw [readTextFrom_escapeUnit (by omega) htail]
  simp only [if_pos hn]

/-- A letter behind a backslash is read as what it stands for. -/
theorem readTextFrom_letter {e : Char} (he : escapeLetter? e = some c) :
    readTextFrom high ('\\' :: e :: tail) =
      (readTextFrom none tail).map fun (t, r) => ((high.map charOfCode).toList ++ c :: t, r) := by
  have hu : e ≠ 'u' := by
    rintro rfl
    cases he
  rw [readTextFrom.eq_def]
  split
  · rename_i heq
    exact absurd (List.cons.inj (List.cons.inj heq).2).1 hu
  · simp only [he]

/-- What needs no escape is read as itself. -/
theorem readTextFrom_plain (hquote : c ≠ '"') (hslash : c ≠ '\\') (hc : 32 ≤ c.toNat) :
    readTextFrom high (c :: tail) =
      (readTextFrom none tail).map fun (t, r) => ((high.map charOfCode).toList ++ c :: t, r) := by
  rw [readTextFrom.eq_def]
  split
  · rename_i heq
    exact absurd (List.cons.inj heq).1 hslash
  · dsimp only
    split
    · rename_i heq
      cases heq
    · rename_i heq
      exact absurd (List.cons.inj heq).1 hquote
    · rename_i heq
      exact absurd (List.cons.inj heq).1 hslash
    · rename_i heq
      cases heq
      rw [if_neg hslash, if_neg (by omega)]

/-- The character whose number two surrogates share. -/
theorem pairChar_halves (hc : isSurrogate (codeOf c) = false) (hlong : 0x10000 ≤ codeOf c) :
    pairChar (0xd800 + (codeOf c - 0x10000) / 0x400) (0xdc00 + (codeOf c - 0x10000) % 0x400) = c := by
  have hcode : 0x10000 + (0xd800 + (codeOf c - 0x10000) / 0x400 - 0xd800) * 0x400 +
      (0xdc00 + (codeOf c - 0x10000) % 0x400 - 0xdc00) = codeOf c := by omega
  rw [pairChar, hcode, codeOf_of_not_surrogate hc, Char.ofNat_toNat]

/-- Whatever a character is written by, it is read, if it is no surrogate. -/
theorem readTextFrom_escapeChar (hc : isSurrogate (codeOf c) = false) (htail : tail ≠ []) :
    readTextFrom high (escapeChar c ++ tail) =
      (readTextFrom none tail).map fun (t, r) => ((high.map charOfCode).toList ++ c :: t, r) := by
  unfold escapeChar
  split
  · rename_i hself
    refine readTextFrom_letter ?_
    rw [escapeLetter?, if_pos (hself.imp_right Or.inl)]
  -- the control characters with letters of their own
  iterate 5
    split
    · rename_i h
      subst h
      exact readTextFrom_letter rfl
  rename_i hself _ _ _ _ _
  obtain ⟨hquote, hslash⟩ := not_or.mp hself
  split
  · rename_i hprinted
    exact readTextFrom_plain hquote hslash hprinted.1
  dsimp only
  split
  · rename_i hshort
    rw [readTextFrom_unit hshort hc htail, charOfCode_codeOf]
  · rename_i hlong
    have hlong : 0x10000 ≤ codeOf c := Nat.le_of_not_lt hlong
    have hcode := codeOf_of_not_surrogate hc
    have hvalid := toNat_valid c
    have hfirst : isHighSurrogate (0xd800 + (codeOf c - 0x10000) / 0x400) = true := by
      rw [isHighSurrogate_iff]
      omega
    have hsecond : isLowSurrogate (0xdc00 + (codeOf c - 0x10000) % 0x400) = true := by
      rw [isLowSurrogate_iff]
      omega
    have hrest : escapeUnit (0xdc00 + (codeOf c - 0x10000) % 0x400) ++ tail ≠ [] :=
      List.append_ne_nil_of_right_ne_nil _ htail
    rw [List.append_assoc, readTextFrom_high hfirst hrest, readTextFrom_pair hsecond _ htail, pairChar_halves hc hlong]
    cases readTextFrom none tail <;> rfl

/-- A surrogate is written by its unit. -/
theorem escapeChar_of_surrogate (hc : isSurrogate (codeOf c) = true) : escapeChar c = escapeUnit (codeOf c) := by
  have hrange := isSurrogate_iff.mp hc
  have hlone : isLone c = true := by
    by_contra hno
    rw [codeOf, if_neg hno] at hrange
    have hvalid := toNat_valid c
    omega
  have hfar : 128 ≤ c.toNat := Nat.le_trans (by decide) (isLone_iff.mp hlone).1
  have hne : ∀ d : Char, d.toNat < 128 → c ≠ d := by
    rintro d hd rfl
    omega
  have hprinted : ¬ (' ' ≤ c ∧ c ≤ '~') := fun h => absurd (show c.toNat ≤ 126 from h.2) (by omega)
  have hshort : codeOf c < 0x10000 := by omega
  simp only [escapeChar, hne '"' (by decide), hne '\\' (by decide), hne '\n' (by decide), hne '\r' (by decide),
    hne '\t' (by decide), hne '\x08' (by decide), hne '\x0c' (by decide), hprinted, hshort, or_self, if_true, if_false]

/-- A text is read from what writes it, with its halves joined. -/
theorem readTextFrom_written (high : Option Nat) (hhigh : ∀ h ∈ high, isHighSurrogate h = true) (cs rest : List Char) :
    readTextFrom high (cs.flatMap escapeChar ++ '"' :: rest) =
      .ok (joinPairs ((high.map charOfCode).toList ++ cs), rest) := by
  -- whatever waits from the characters before counts as the first one of those that are left
  induction cs generalizing high with
  | nil =>
    have hlone : joinPairs ((high.map charOfCode).toList ++ []) = (high.map charOfCode).toList := by
      cases high <;> rfl
    rw [hlone]
    cases high <;> rfl
  | cons c cs ih =>
    have htail : cs.flatMap escapeChar ++ '"' :: rest ≠ [] := List.append_ne_nil_of_right_ne_nil _ (List.cons_ne_nil _ _)
    have hnone := ih none fun _ h => by cases h
    have hself : charOfCode (codeOf c) = c := charOfCode_codeOf c
    rw [List.flatMap_cons, List.append_assoc]
    cases hc : isSurrogate (codeOf c) with
    | false =>
      rw [readTextFrom_escapeChar hc htail, hnone, joinPairs_append_cons hc]
      rfl
    | true =>
      rw [escapeChar_of_surrogate hc]
      rcases isSurrogate_iff_half.mp hc with hfirst | hlow
      · have hrest := ih (some (codeOf c)) fun n hn => Option.some.inj hn ▸ hfirst
        rw [Option.map_some, hself] at hrest
        rw [readTextFrom_high hfirst htail, hrest]
        cases high with
        | none => rfl
        | some h =>
          have hnot : ¬ isLowSurrogate (codeOf c) = true := fun hl => not_high_of_low hl hfirst
          exact congrArg (fun t => Except.ok (t, rest)) (joinPairs_cons_of_not_low hnot cs).symm
      · cases high with
        | none =>
          rw [readTextFrom_low hlow htail, hnone, hself]
          exact congrArg (fun t => Except.ok (t, rest)) (joinPairs_cons_of_not_high (not_high_of_low hlow) cs).symm
        | some h =>
          have hh : isHighSurrogate h = true := hhigh h rfl
          have hcode : codeOf (charOfCode h) = h := codeOf_charOfCode (isSurrogate_iff_half.mpr (Or.inl hh))
          rw [readTextFrom_pair hlow h htail, hnone]
          show _ = Except.ok (joinPairs (charOfCode h :: c :: cs), rest)
          rw [joinPairs, hcode, if_pos ⟨hh, hlow⟩]
          rfl

end Reading

/-! ## Texts and lists of texts -/

section Texts

theorem readText_written (cs rest : List Char) :
    readText (cs.flatMap escapeChar ++ '"' :: rest) = .ok (joinPairs cs, rest) := by
  rw [readText, readTextFrom_written none (fun _ h => by cases h)]
  rfl

theorem writeText_append (s : String) (rest : List Char) :
    writeText s ++ rest = '"' :: (s.toList.flatMap escapeChar ++ '"' :: rest) := by
  simp [writeText]

theorem readValue_writeText (room steps : Nat) (s : String) (rest : List Char) :
    readValue room (steps + 1) (writeText s ++ rest) = .ok (.text (joined s), rest) := by
  rw [writeText_append, readValue, readText_written]
  rfl

theorem skipSpace_append {gap : List Char} (hgap : ∀ c ∈ gap, isSpace c = true) (cs : List Char) :
    skipSpace (gap ++ cs) = skipSpace cs := by
  induction gap with
  | nil => rfl
  | cons c gap ih =>
    obtain ⟨hc, hgap⟩ := List.forall_mem_cons.mp hgap
    rw [List.cons_append, skipSpace, List.dropWhile_cons_of_pos hc]
    exact ih hgap

section Items

variable {room steps : Nat} {cs rest : List Char} {v : Value}

theorem readItems_last (h : readValue room steps cs = .ok (v, ']' :: rest)) :
    readItems room (steps + 1) cs = .ok ([v], rest) := by
  rw [readItems, h]
  rfl

theorem readItems_comma (h : readValue room steps cs = .ok (v, ',' :: rest)) :
    readItems room (steps + 1) cs = (readItems room steps (skipSpace rest)).map fun (vs, r) => (v :: vs, r) := by
  rw [readItems, h]
  rfl

end Items

def writeTexts (gap : List Char) (texts : List String) : List Char := Text.join (',' :: gap) (texts.map writeText)

theorem exists_writeTexts (gap : List Char) {texts : List String} (hne : texts ≠ []) :
    ∃ tail, writeTexts gap texts = '"' :: tail := by
  cases texts with
  | nil => exact absurd rfl hne
  | cons s texts => cases texts <;> exact ⟨_, rfl⟩

theorem writeTexts_cons_cons (gap : List Char) (s t : String) (texts : List String) :
    writeTexts gap (s :: t :: texts) = writeText s ++ ',' :: gap ++ writeTexts gap (t :: texts) := rfl

/-- Texts between commas, with blanks behind these, are read up to the closing bracket. -/
theorem readItems_texts {gap : List Char} (hgap : ∀ c ∈ gap, isSpace c = true) (room : Nat) {texts : List String}
    (hne : texts ≠ []) (steps : Nat) (hsteps : texts.length < steps) (rest : List Char) :
    readItems room steps (writeTexts gap texts ++ ']' :: rest) = .ok (texts.map fun s => .text (joined s), rest) := by
  induction texts generalizing steps with
  | nil => exact absurd rfl hne
  | cons s texts ih =>
    rw [List.length_cons] at hsteps
    obtain ⟨n, rfl⟩ := Nat.exists_eq_add_of_le' (show 2 ≤ steps by omega)
    cases texts with
    | nil => exact readItems_last (readValue_writeText room n s (']' :: rest))
    | cons t texts =>
      obtain ⟨tail, htail⟩ := exists_writeTexts gap (List.cons_ne_nil t texts)
      have hlayout : writeTexts gap (s :: t :: texts) ++ ']' :: rest =
          writeText s ++ ',' :: (gap ++ (writeTexts gap (t :: texts) ++ ']' :: rest)) := by
        simp only [writeTexts_cons_cons, List.append_assoc, List.cons_append]
      have hskip : skipSpace (writeTexts gap (t :: texts) ++ ']' :: rest) = writeTexts gap (t :: texts) ++ ']' :: rest := by
        rw [htail]
        rfl
      rw [hlayout, readItems_comma (readValue_writeText room n s _), skipSpace_append hgap, hskip,
        ih (List.cons_ne_nil t texts) (n + 1) (by omega)]
      rfl

/-- The JSON of a text is read as the text with its halves joined. -/
theorem readChars_writeText (s : String) : readChars (writeText s) = .ok (.text (joined s)) := by
  have hvalue := readValue_writeText maxNesting (2 * (writeText s).length) s []
  rw [List.append_nil] at hvalue
  have hmark : (writeText s).head? ≠ some byteOrderMark := show some '"' ≠ some byteOrderMark by decide
  have hskip : skipSpace (writeText s) = writeText s := rfl
  rw [readChars, if_neg hmark, hskip, hvalue]
  rfl

/-- A list of texts in square brackets is read as the list of them, each with its halves joined. -/
theorem readChars_writeTexts {gap : List Char} (hgap : ∀ c ∈ gap, isSpace c = true) {texts : List String}
    (hne : texts ≠ []) :
    readChars ('[' :: writeTexts gap texts ++ [']']) = .ok (.list (texts.map fun s => .text (joined s))) := by
  obtain ⟨tail, htail⟩ := exists_writeTexts gap hne
  have hlength : texts.length ≤ (writeTexts gap texts).length := by
    clear htail
    induction texts with
    | nil => exact absurd rfl hne
    | cons s texts ih =>
      cases texts with
      | nil => simp [writeTexts, Text.join, writeText]
      | cons t texts =>
        have := ih (List.cons_ne_nil t texts)
        simp only [writeTexts_cons_cons, List.length_append, List.length_cons] at this ⊢
        omega
  have hitems := readItems_texts hgap 979 hne (2 * ('[' :: writeTexts gap texts ++ [']']).length) (by simp; omega) []
  have hvalue : readValue maxNesting (2 * ('[' :: writeTexts gap texts ++ [']']).length + 1)
      ('[' :: writeTexts gap texts ++ [']']) = .ok (.list (texts.map fun s => .text (joined s)), []) := by
    rw [htail] at hitems ⊢
    exact congrArg (Except.map fun (vs, r) => (Value.list vs, r)) hitems
  have hmark : ('[' :: writeTexts gap texts ++ [']']).head? ≠ some byteOrderMark :=
    show some '[' ≠ some byteOrderMark by decide
  have hskip : skipSpace ('[' :: writeTexts gap texts ++ [']']) = '[' :: writeTexts gap texts ++ [']'] := rfl
  rw [readChars, if_neg hmark, hskip, hvalue]
  rfl

end Texts

end Json

end DocumentStore
