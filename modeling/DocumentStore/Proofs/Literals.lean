/-
  DocumentStore.Proofs.Literals — the JSON of a text in a condition stands for that text.

  A condition is a field, an operator and a literal with a blank between each two, and is cut at that
  operator whatever stands in the literal (`splitClause_condition`). What an escape writes is no part of a
  connective, nor are the quotes or what stands around them, so the condition mentions the connectives that
  the text mentions (`mentions_condition_text`).

  So a condition on a text is read as the clause it was written for, whatever characters the text has, unless
  a connective is mentioned in it (`condition_on_text_iff`): a filter is cut at the words, quoted or not, and
  the pieces of a quoted text are no clauses (`text_is_cut_at_connective`).
-/

import DocumentStore.Proofs.Connectives
import DocumentStore.Proofs.JsonText

namespace DocumentStore

namespace Json

/-! ## Escapes -/

section Escapes

variable {c d : Char} {n : Nat} {written rest cs : List Char}

theorem escapeChar_of_printed (hlow : 32 ≤ c.toNat) (hhigh : c.toNat ≤ 126) (hquote : c ≠ '"') (hslash : c ≠ '\\') :
    escapeChar c = [c] := by
  have hne : ∀ d : Char, d.toNat < 32 → c ≠ d := by
    rintro d hd rfl
    omega
  have hprinted : ' ' ≤ c ∧ c ≤ '~' := ⟨hlow, hhigh⟩
  simp only [escapeChar, hquote, hslash, hne '\n' (by decide), hne '\r' (by decide), hne '\t' (by decide),
    hne '\x08' (by decide), hne '\x0c' (by decide), hprinted, or_self, and_self, if_true, if_false]

theorem le_of_mem_escapeUnit (h : d ∈ escapeUnit n) : 48 ≤ d.toNat := by
  have hdigits : ∀ k < 16, 48 ≤ (Text.hexDigit k).toNat := by decide
  rw [escapeUnit, List.mem_cons, List.mem_cons] at h
  rcases h with rfl | rfl | h
  · decide
  · decide
  · obtain ⟨k, hk, rfl⟩ := Text.mem_hex h
    exact hdigits k hk

/-- A character is written by itself, or by a backslash with quotes, letters and digits behind it. -/
theorem escapeChar_cases (c : Char) :
    escapeChar c = [c] ∨ ∃ more, escapeChar c = '\\' :: more ∧ ∀ d ∈ more, d = '"' ∨ 48 ≤ d.toNat := by
  unfold escapeChar
  split
  · rename_i hself
    refine Or.inr ⟨[c], rfl, fun d hd => ?_⟩
    obtain rfl := List.mem_singleton.mp hd
    rcases hself with rfl | rfl
    · exact Or.inl rfl
    · exact Or.inr (by decide)
  iterate 5
    split
    · exact Or.inr ⟨_, rfl, List.forall_mem_singleton.mpr (Or.inr (by decide))⟩
  split
  · exact Or.inl rfl
  dsimp only
  split
  · exact Or.inr ⟨_, rfl, fun d hd => Or.inr (le_of_mem_escapeUnit (List.mem_cons_of_mem _ hd))⟩
  · refine Or.inr ⟨_, rfl, fun d hd => Or.inr ?_⟩
    rcases List.mem_append.mp hd with hd | hd
    · exact le_of_mem_escapeUnit (List.mem_cons_of_mem _ hd)
    · exact le_of_mem_escapeUnit hd

/-- What begins the JSON of a text and has no backslash begins the text. -/
theorem exists_prefix_of_flatMap (hslash : '\\' ∉ written) (h : cs.flatMap escapeChar = written ++ rest) :
    ∃ after, cs = written ++ after := by
  induction written generalizing cs with
  | nil => exact ⟨cs, rfl⟩
  | cons d written ih =>
    obtain ⟨hd, hwritten⟩ : '\\' ≠ d ∧ '\\' ∉ written := by simpa using hslash
    cases cs with
    | nil => cases h
    | cons c cs =>
      rw [List.flatMap_cons] at h
      rcases escapeChar_cases c with hc | ⟨more, hc, -⟩
      · rw [hc] at h
        obtain ⟨rfl, htail⟩ := List.cons.inj h
        obtain ⟨after, rfl⟩ := ih hwritten htail
        exact ⟨after, rfl⟩
      · rw [hc] at h
        exact absurd (List.cons.inj h).1 hd

/-- A sign below the digits is written only where it stands. -/
theorem not_mem_flatMap_escapeChar (hlow : d.toNat < 48) (hquote : d ≠ '"') (h : d ∉ cs) :
    d ∉ cs.flatMap escapeChar := by
  intro hm
  obtain ⟨c, hc, hd⟩ := List.mem_flatMap.mp hm
  rcases escapeChar_cases c with hself | ⟨more, hmore, hbig⟩
  · rw [hself, List.mem_singleton] at hd
    exact h (hd ▸ hc)
  · rw [hmore, List.mem_cons] at hd
    rcases hd with rfl | hd
    · exact absurd hlow (by decide)
    · exact (hbig d hd).elim hquote (Nat.not_le.mpr hlow)

end Escapes

/-- No round bracket closes in the JSON of texts that have none. -/
theorem not_mem_writeTexts {gap : List Char} (hgap : ∀ c ∈ gap, isSpace c = true) {texts : List String}
    (htexts : ∀ s ∈ texts, ')' ∉ s.toList) : ')' ∉ writeTexts gap texts := by
  have hone : ∀ s ∈ texts, ')' ∉ writeText s := by
    intro s hs
    have hbody := not_mem_flatMap_escapeChar (by decide) (by decide) (htexts s hs)
    simp [writeText, hbody]
  have hblanks : ')' ∉ gap := fun hm => absurd (hgap _ hm) (by decide)
  induction texts with
  | nil => exact List.not_mem_nil
  | cons s texts ih =>
    obtain ⟨-, htexts⟩ := List.forall_mem_cons.mp htexts
    obtain ⟨hs, hone⟩ := List.forall_mem_cons.mp hone
    cases texts with
    | nil => exact hs
    | cons t texts => simp [writeTexts_cons_cons, hs, hblanks, ih htexts hone]

end Json

namespace Query

open Json

/-! ## Connectives in JSON -/

section Mentions

variable {k : Connective} {c : Char} {a b cs : List Char}

/-- A connective is mentioned on one side of a character that it has in no letter case, or on the other. -/
theorem mentions_around (hc : c.toLower ∉ k.word) :
    Mentions k.word (a ++ c :: b) ↔ Mentions k.word a ∨ Mentions k.word b := by
  constructor
  · rintro ⟨before, written, after, he, hw⟩
    have hno : c ∉ written := fun hm => hc (hw ▸ List.mem_map_of_mem hm)
    rw [List.append_assoc] at he
    rcases List.append_eq_append_iff.mp he with ⟨s, rfl, hs⟩ | ⟨s, rfl, hs⟩
    · cases s with
      | nil =>
        cases written with
        | nil => exact absurd hw.symm k.word_ne_nil
        | cons d written => exact absurd (List.mem_cons.mpr (Or.inl (List.cons.inj hs).1)) hno
      | cons d s =>
        obtain ⟨rfl, rfl⟩ := List.cons.inj hs
        exact Or.inr ⟨s, written, after, (List.append_assoc s written after).symm, hw⟩
    · rcases List.append_eq_append_iff.mp hs with ⟨t, rfl, -⟩ | ⟨t, rfl, ht⟩
      · exact Or.inl ⟨before, written, t, by rw [List.append_assoc], hw⟩
      · cases t with
        | nil => exact Or.inl ⟨before, s ++ [], [], by simp, hw⟩
        | cons d t =>
          cases ht
          exact absurd (by simp) hno
  · rintro (h | h)
    · exact h.append_right (c :: b)
    · exact (h.append_left [c]).append_left a

/-- No connective begins before the first blank. -/
theorem mentions_append_of_no_blank (ha : ' ' ∉ a) : Mentions k.word (a ++ b) ↔ Mentions k.word b := by
  induction a with
  | nil => rfl
  | cons c a ih =>
    obtain ⟨hc, ha⟩ : ' ' ≠ c ∧ ' ' ∉ a := by simpa using ha
    rw [List.cons_append, mentions_cons, ih ha, or_iff_right]
    rintro ⟨written, rest, he, hw⟩
    obtain ⟨letters, rfl⟩ := exists_joint hw
    exact hc (List.cons.inj he).1.symm

theorem not_mentions_nil : ¬ Mentions k.word [] := by cases k <;> decide

/-- The characters of a connective need no escape, in any letter case. -/
theorem escapeChar_of_mem_word (hc : c.toLower ∈ k.word) : escapeChar c = [c] := by
  have hletters : ∀ p ∈ k.word, p.toNat = 32 ∨ (97 ≤ p.toNat ∧ p.toNat ≤ 122) := by
    cases k <;> simp [Connective.word]
  have hrange := hletters _ hc
  have hne : ∀ d : Char, c.toNat ≠ d.toNat → c ≠ d := fun d hd he => hd (congrArg Char.toNat he)
  have hcode : c.toNat = 32 ∨ (65 ≤ c.toNat ∧ c.toNat ≤ 90) ∨ (97 ≤ c.toNat ∧ c.toNat ≤ 122) := by
    rcases toLower_cases c with hself | ⟨hlow, hhigh, -⟩
    · rw [hself] at hrange
      exact hrange.imp_right Or.inr
    · exact Or.inr (Or.inl ⟨hlow, hhigh⟩)
  refine escapeChar_of_printed (by omega) (by omega) (hne _ ?_) (hne _ ?_)
  · show c.toNat ≠ 34
    omega
  · show c.toNat ≠ 92
    omega

/-- The JSON of a text mentions the connectives that the text mentions. -/
theorem mentions_flatMap_escapeChar : Mentions k.word (cs.flatMap escapeChar) ↔ Mentions k.word cs := by
  have hslash : ∀ {written}, Spells k.word written → '\\' ∉ written := by
    intro written hw hm
    have hmem : Char.toLower '\\' ∈ k.word := hw ▸ List.mem_map_of_mem hm
    cases k <;> exact absurd hmem (by decide)
  constructor
  · intro h
    induction cs with
    | nil => exact h
    | cons c cs ih =>
      rcases escapeChar_cases c with hc | ⟨more, hc, hmore⟩
      · have hfront : (c :: cs).flatMap escapeChar = c :: cs.flatMap escapeChar := by rw [List.flatMap_cons, hc]; rfl
        rw [hfront, mentions_cons] at h
        rcases h with ⟨written, rest, he, hw⟩ | h
        -- a connective that begins here has no backslash, so no escape, and stands in the text itself
        · obtain ⟨after, he⟩ := exists_prefix_of_flatMap (hslash hw) (hfront.trans he)
          exact ⟨[], written, after, he, hw⟩
        · exact (ih h).append_left [c]
      · have hblank : ' ' ∉ '\\' :: more := by
          rw [List.mem_cons, not_or]
          refine ⟨by decide, fun hm => ?_⟩
          exact (hmore ' ' hm).elim (by decide) (by decide)
        rw [List.flatMap_cons, hc, mentions_append_of_no_blank hblank] at h
        exact (ih h).append_left [c]
  · rintro ⟨before, written, after, rfl, hw⟩
    have hself : written.flatMap escapeChar = written := by
      rw [List.flatMap_congr fun c hc => escapeChar_of_mem_word (k := k) (hw ▸ List.mem_map_of_mem hc)]
      exact List.flatMap_singleton' written
    exact ⟨_, written, _, by rw [List.flatMap_append, List.flatMap_append, hself], hw⟩

theorem mentions_writeText {s : String} :
    Mentions k.word (a ++ writeText s ++ b) ↔ Mentions k.word a ∨ Mentions k.word s.toList ∨ Mentions k.word b := by
  have hquote : Char.toLower '"' ∉ k.word := by cases k <;> decide
  rw [List.append_assoc, writeText_append, mentions_around hquote, mentions_around hquote, mentions_flatMap_escapeChar]

/-- Blanks alone mention nothing. -/
theorem not_mentions_gap {gap : List Char} (hgap : ∀ c ∈ gap, isSpace c = true) : ¬ Mentions k.word (',' :: gap) := by
  rintro ⟨before, written, after, he, hw⟩
  obtain ⟨p, hp, hletter⟩ : ∃ p ∈ k.word, p = 'd' ∨ p = 'r' := by cases k <;> simp [Connective.word]
  rw [← hw, List.mem_map] at hp
  obtain ⟨c, hc, rfl⟩ := hp
  have hmem : c ∈ ',' :: gap := by
    rw [he]
    exact List.mem_append_left _ (List.mem_append_right _ hc)
  rcases List.mem_cons.mp hmem with rfl | hmem
  · exact absurd hletter (by decide)
  · have hspace := hgap c hmem
    simp only [isSpace, Bool.or_eq_true, beq_iff_eq] at hspace
    rcases hspace with ((rfl | rfl) | rfl) | rfl <;> exact absurd hletter (by decide)

theorem mentions_writeTexts {gap : List Char} (hgap : ∀ c ∈ gap, isSpace c = true) {texts : List String}
    (hne : texts ≠ []) :
    Mentions k.word (a ++ writeTexts gap texts ++ b) ↔
      Mentions k.word a ∨ (∃ s ∈ texts, Mentions k.word s.toList) ∨ Mentions k.word b := by
  induction texts generalizing a with
  | nil => exact absurd rfl hne
  | cons s texts ih =>
    cases texts with
    | nil =>
      simp only [List.mem_singleton, exists_eq_left]
      exact mentions_writeText
    | cons t texts =>
      have hlayout : a ++ writeTexts gap (s :: t :: texts) ++ b =
          a ++ writeText s ++ ((',' :: gap) ++ writeTexts gap (t :: texts) ++ b) := by
        simp only [writeTexts_cons_cons, List.append_assoc, List.cons_append]
      rw [hlayout, mentions_writeText, ih (List.cons_ne_nil t texts), or_iff_right (not_mentions_gap hgap),
        List.exists_mem_cons_iff (a := s), or_assoc]

end Mentions

/-! ## Conditions -/

structure IsFieldName (field : List Char) : Prop where
  nonempty : field ≠ []
  no_blank : ∀ c ∈ field, Text.isBlank c = false
  no_sign : ∀ c ∈ field, c ∉ ['<', '>', '=']

def condition (field : List Char) (op : Operator) (literal : List Char) : List Char :=
  field ++ (' ' :: Text.trim op.text.toList ++ [' ']) ++ literal

section Conditions

variable {field literal cs : List Char} {op : Operator} {c : Char}

/-- Operators begin with a blank or a sign. -/
theorem operatorHere_eq_none (hblank : c ≠ ' ') (hsign : c ∉ ['<', '>', '=']) (cs : List Char) :
    operatorHere (c :: cs) = none := by
  have hmeets : ∀ p ∈ [' ', '<', '>', '='], meets p c = false := by
    intro p hp
    have hplain : p ≠ 'i' ∧ p ≠ 'k' ∧ p.toNat < 97 := by
      simp only [List.mem_cons, List.not_mem_nil, or_false] at hp
      rcases hp with rfl | rfl | rfl | rfl <;> decide
    rw [← Bool.not_eq_true, meets_iff hplain.1 hplain.2.1]
    intro hlower
    obtain rfl := eq_of_toLower hplain.2.2 hlower
    rcases List.mem_cons.mp hp with rfl | hp
    · exact hblank rfl
    · exact hsign hp
  have htake : ∀ p ps, p ∈ [' ', '<', '>', '='] → takeWord (p :: ps) (c :: cs) = none := by
    intro p ps hp
    rw [takeWord, hmeets p hp, if_neg Bool.false_ne_true]
  have hwords : ∀ op ∈ Operator.all, takeWord op.text.toList (c :: cs) = none := by
    intro op _
    cases op <;> exact htake _ _ (by decide)
  refine List.findSome?_eq_none_iff.mpr fun op hop => ?_
  rw [hwords op hop]

/-- No operator is found before one begins. -/
theorem splitClause_append {front : List Char} (hfront : ∀ c ∈ front, c ≠ ' ' ∧ c ∉ ['<', '>', '=']) (c : Char)
    (rest : List Char) :
    splitClause (c :: front ++ rest) =
      match operatorHere rest with
      | some (op, written, literal) => some ⟨c :: front, op, written, literal⟩
      | none => (splitClause rest).map fun parts => { parts with field := c :: front ++ parts.field } := by
  induction front generalizing c with
  | nil => rfl
  | cons d front ih =>
    obtain ⟨⟨hblank, hsign⟩, hfront⟩ := List.forall_mem_cons.mp hfront
    rw [List.cons_append, List.cons_append, splitClause, operatorHere_eq_none hblank hsign]
    dsimp only
    rw [← List.cons_append, ih hfront d]
    cases operatorHere rest with
    | some found => rfl
    | none =>
      dsimp only
      rw [Option.map_map]
      rfl

/-- What a sign between blanks cuts a text into. -/
theorem splitClause_sign (hop : op ≠ .like) (hamong : op ≠ .among) (literal : List Char) :
    splitClause (' ' :: op.text.toList ++ ' ' :: literal) = some ⟨[' '], op, op.text.toList, ' ' :: literal⟩ ∧
      operatorHere (' ' :: op.text.toList ++ ' ' :: literal) = none := by
  cases op with
  | like => exact absurd rfl hop
  | among => exact absurd rfl hamong
  | _ => exact ⟨rfl, rfl⟩

theorem operatorHere_word (hop : op = .like ∨ op = .among) (hliteral : literal ≠ []) :
    operatorHere (op.text.toList ++ literal) = some (op, op.text.toList, literal) := by
  obtain ⟨c, literal, rfl⟩ := List.exists_cons_of_ne_nil hliteral
  rcases hop with rfl | rfl <;> rfl

theorem IsFieldName.trim_eq (h : IsFieldName field) : Text.trim field = field := Text.trim_eq_self h.no_blank

/-- A condition is cut at its operator. -/
theorem splitClause_condition (hfield : IsFieldName field) (op : Operator) (hliteral : literal ≠ []) :
    ∃ parts, splitClause (condition field op literal) = some parts ∧ Text.trim parts.field = field ∧
      parts.operator = op ∧ parts.written = op.text.toList ∧ Text.trim parts.literal = Text.trim literal := by
  have hblank : Text.isBlank ' ' = true := by decide
  have htrim := hfield.trim_eq
  obtain ⟨c, front, rfl⟩ := List.exists_cons_of_ne_nil hfield.nonempty
  have hfront : ∀ d ∈ front, d ≠ ' ' ∧ d ∉ ['<', '>', '='] := fun d hd => by
    have hmem := List.mem_cons_of_mem c hd
    refine ⟨?_, hfield.no_sign d hmem⟩
    rintro rfl
    cases (hfield.no_blank ' ' hmem).symm.trans hblank
  -- a word takes the blanks around it with it, a sign leaves them to the field and the literal
  by_cases hword : op = .like ∨ op = .among
  · have hlayout : condition (c :: front) op literal = c :: front ++ (op.text.toList ++ literal) := by
      rcases hword with rfl | rfl <;> simp [condition] <;> rfl
    rw [hlayout, splitClause_append hfront, operatorHere_word hword hliteral]
    exact ⟨_, rfl, htrim, rfl, rfl, rfl⟩
  · obtain ⟨hlike, hamong⟩ := not_or.mp hword
    have hsign : Text.trim op.text.toList = op.text.toList := by
      cases op with
      | like => exact absurd rfl hlike
      | among => exact absurd rfl hamong
      | _ => decide
    have hlayout : condition (c :: front) op literal =
        c :: front ++ (' ' :: op.text.toList ++ ' ' :: literal) := by simp [condition, hsign]
    obtain ⟨hsplit, hnone⟩ := splitClause_sign hlike hamong literal
    rw [hlayout, splitClause_append hfront, hnone, hsplit]
    refine ⟨_, rfl, ?_, rfl, rfl, Text.trim_cons_blank hblank literal⟩
    exact (Text.trim_concat_blank hblank (c :: front)).trans htrim

theorem trim_condition (hfield : IsFieldName field) (op : Operator) (htrim : Text.trim literal = literal)
    (hliteral : literal ≠ []) : Text.trim (condition field op literal) = condition field op literal :=
  Text.trim_append hfield.trim_eq htrim hfield.nonempty hliteral _

/-- A condition is the clause of its field, its operator and what its literal is read as. -/
theorem parse_condition (hfield : IsFieldName field) (op : Operator) (htrim : Text.trim literal = literal)
    (hliteral : literal ≠ []) :
    Clause.parse (condition field op literal) =
      (readOperand op literal).map fun value => ⟨String.ofList field, op, value⟩ := by
  have hlower : Text.lowerChars op.text.toList = op.text.toList := by cases op <;> decide
  obtain ⟨parts, hparts, hname, rfl, hwritten, hrest⟩ := splitClause_condition hfield op hliteral
  rw [Clause.parse, trim_condition hfield _ htrim hliteral, hparts]
  dsimp only
  rw [Clause.ofParts, hname, hwritten, hlower, hrest, htrim, if_neg (by simpa using hfield.nonempty),
    if_neg (not_not.mpr rfl)]

/-! ## Literals of texts -/

/-- The brackets of a list hold the texts, if none of these has a closing one. -/
theorem bracketed_writeTexts (gap : List Char) {texts : List String} (hne : texts ≠ [])
    (hclosed : ')' ∉ writeTexts gap texts) :
    bracketed ('(' :: writeTexts gap texts ++ [')']) = some (writeTexts gap texts) := by
  obtain ⟨tail, htail⟩ := exists_writeTexts gap hne
  rw [htail, List.mem_cons, not_or] at hclosed
  rw [htail]
  have hcut : Text.cut ')' (tail ++ [')']) = some (tail, []) := Text.cut_append hclosed.2 []
  show (Text.cut ')' (tail ++ [')'])).map (fun found => '"' :: found.1) = _
  rw [hcut]
  rfl

theorem readOperand_text (hop : op ≠ .among) (s : String) :
    readOperand op (writeText s) = .ok (.text (Text.joined s)) := by
  have hread : readLiteral (writeText s) = .ok (.text (Text.joined s)) := by rw [readLiteral, readChars_writeText]
  cases op with
  | among => exact absurd rfl hop
  | like => rw [readOperand, hread]
  | _ => exact hread

theorem readOperand_texts {gap : List Char} (hgap : ∀ c ∈ gap, isSpace c = true) {texts : List String}
    (hne : texts ≠ []) (htexts : ∀ s ∈ texts, ')' ∉ s.toList) :
    readOperand .among ('(' :: writeTexts gap texts ++ [')']) =
      .ok (.list (texts.map fun s => .text (Text.joined s))) := by
  rw [readOperand, bracketed_writeTexts gap hne (not_mem_writeTexts hgap htexts)]
  dsimp only
  rw [readLiteral, readChars_writeTexts hgap hne]

/-! ## Connectives in conditions -/

theorem not_mentions_operator {k : Connective} (hfield : IsFieldName field) (op : Operator) :
    ¬ Mentions k.word (field ++ (' ' :: Text.trim op.text.toList ++ [' '])) := by
  have hblank : ' ' ∉ field := fun hm => absurd (hfield.no_blank _ hm) (by decide)
  rw [mentions_append_of_no_blank hblank]
  cases k <;> cases op <;> decide

/-- A condition on a text mentions what the text mentions. -/
theorem mentions_condition_text {k : Connective} (hfield : IsFieldName field) (op : Operator) (s : String) :
    Mentions k.word (condition field op (writeText s)) ↔ Mentions k.word s.toList := by
  rw [condition, ← List.append_nil (_ ++ writeText s), mentions_writeText,
    or_iff_right (not_mentions_operator hfield op), or_iff_left not_mentions_nil]

theorem mentions_condition_texts {k : Connective} (hfield : IsFieldName field) {gap : List Char}
    (hgap : ∀ c ∈ gap, isSpace c = true) {texts : List String} (hne : texts ≠ []) :
    Mentions k.word (condition field .among ('(' :: writeTexts gap texts ++ [')'])) ↔
      ∃ s ∈ texts, Mentions k.word s.toList := by
  have hopen : Char.toLower '(' ∉ k.word := by cases k <;> decide
  have hclose : ¬ Mentions k.word [')'] := by cases k <;> decide
  have hlayout : condition field .among ('(' :: writeTexts gap texts ++ [')']) =
      field ++ (' ' :: Text.trim Operator.among.text.toList ++ [' ']) ++
        '(' :: ([] ++ writeTexts gap texts ++ [')']) := rfl
  rw [hlayout, mentions_around hopen, mentions_writeTexts hgap hne,
    or_iff_right (not_mentions_operator hfield .among), or_iff_right not_mentions_nil, or_iff_left hclose]

/-- A condition is read as a single clause exactly if it mentions no connective and its literal is read as the
value of the clause. -/
theorem parse_condition_iff (hfield : IsFieldName field) (htrim : Text.trim literal = literal)
    (hliteral : literal ≠ []) {read value : Value} (hread : readOperand op literal = .ok read) :
    Filter.parse (String.ofList (condition field op literal)) =
        .ok ⟨.and, [⟨String.ofList field, op, value⟩]⟩ ↔
      (∀ k : Connective, ¬ Mentions k.word (condition field op literal)) ∧ read = value := by
  rw [parse_single_iff (trim_condition hfield op htrim hliteral), parse_condition hfield op htrim hliteral, hread]
  simp only [Except.map, Except.ok.injEq, Clause.mk.injEq, true_and]

end Conditions

/-- No connective is mentioned in the text, and none of its surrogates are halves of one character, so that
its JSON is that of no other text. -/
structure IsOpaque (s : String) : Prop where
  no_connective : ∀ k : Connective, ¬ Mentions k.word s.toList
  no_pairs : Text.NoPairs s.toList

/-- A condition on a text is read as the clause it was written for exactly if the text is opaque, whatever other
characters and words there are in it. So is a condition on a list of texts without closing brackets. -/
theorem condition_on_text_iff {field : List Char} (hfield : IsFieldName field) :
    (∀ op s, op ≠ .among →
      (Filter.parse (String.ofList (condition field op (writeText s))) =
          .ok ⟨.and, [⟨String.ofList field, op, .text s⟩]⟩ ↔
        IsOpaque s)) ∧
    ∀ gap texts, (∀ c ∈ gap, isSpace c = true) → texts ≠ [] → (∀ s ∈ texts, ')' ∉ s.toList) →
      (Filter.parse (String.ofList (condition field .among ('(' :: writeTexts gap texts ++ [')']))) =
          .ok ⟨.and, [⟨String.ofList field, .among, .list (texts.map .text)⟩]⟩ ↔
        ∀ s ∈ texts, IsOpaque s) := by
  constructor
  · intro op s hop
    have htrim : Text.trim (writeText s) = writeText s :=
      Text.trim_append (a := ['"']) (b := ['"']) (by decide) (by decide) (by decide) (by decide) _
    rw [parse_condition_iff hfield htrim (List.cons_ne_nil _ _) (readOperand_text hop s)]
    simp only [mentions_condition_text hfield, Value.text.injEq, Text.joined_eq_self_iff]
    constructor
    · rintro ⟨hquiet, hpairs⟩
      exact ⟨hquiet, hpairs⟩
    · intro h
      exact ⟨h.no_connective, h.no_pairs⟩
  · intro gap texts hgap hne htexts
    have htrim : Text.trim ('(' :: writeTexts gap texts ++ [')']) = '(' :: writeTexts gap texts ++ [')'] :=
      Text.trim_append (a := ['(']) (b := [')']) (by decide) (by decide) (by decide) (by decide) _
    rw [parse_condition_iff hfield htrim (List.cons_ne_nil _ _) (readOperand_texts hgap hne htexts)]
    simp only [mentions_condition_texts hfield hgap hne, Value.list.injEq, List.map_inj_left, Value.text.injEq,
      Text.joined_eq_self_iff, not_exists, not_and]
    constructor
    · rintro ⟨hquiet, hpairs⟩ s hs
      exact ⟨fun k => hquiet k s hs, hpairs s hs⟩
    · intro h
      exact ⟨fun k s hs => (h s hs).no_connective k, fun s hs => (h s hs).no_pairs⟩

/-! ### Conditions on authors and titles -/

theorem isFieldName_author : IsFieldName "author".toList := ⟨by decide, by simp [Text.isBlank], by simp⟩

/-- Signs, quotes and a word without blanks around it. -/
theorem isOpaque_signs : IsOpaque "\"and\" <= (in)" := ⟨fun k => by cases k <;> decide, by decide⟩

theorem isOpaque_or : IsOpaque "or" := ⟨fun k => by cases k <;> decide, by decide⟩

theorem condition_on_text_iff_author :
    IsFieldName "author".toList ∧ IsOpaque "\"and\" <= (in)" ∧ IsOpaque "or" ∧
      Filter.parse "author like \"\\\"and\\\" <= (in)\"" =
        .ok ⟨.and, [⟨"author", .like, .text "\"and\" <= (in)"⟩]⟩ ∧
      Filter.parse "author in (\"or\", \"or\")" =
        .ok ⟨.and, [⟨"author", .among, .list [.text "or", .text "or"]⟩]⟩ := by
  have hlike : condition "author".toList .like (writeText "\"and\" <= (in)") =
      "author like \"\\\"and\\\" <= (in)\"".toList := by decide
  have hamong : condition "author".toList .among ('(' :: writeTexts [' '] ["or", "or"] ++ [')']) =
      "author in (\"or\", \"or\")".toList := by decide
  obtain ⟨hone, hmany⟩ := condition_on_text_iff isFieldName_author
  have hread := (hone .like "\"and\" <= (in)" (by decide)).mpr isOpaque_signs
  have hblank : ∀ c ∈ [' '], isSpace c = true := List.forall_mem_singleton.mpr rfl
  have hlist := (hmany [' '] ["or", "or"] hblank (by decide) (by simp)).mpr (by simp [isOpaque_or])
  rw [hlike, String.ofList_toList, String.ofList_toList] at hread
  rw [hamong, String.ofList_toList, String.ofList_toList] at hlist
  exact ⟨isFieldName_author, isOpaque_signs, isOpaque_or, hread, hlist⟩

/-- The text is cut at the word in it, and neither piece is a clause. -/
theorem text_is_cut_at_connective :
    IsFieldName "title".toList ∧
      Filter.parse (String.ofList (condition "title".toList .equal (writeText "war and peace"))) =
        .error malformedWhere := ⟨⟨by decide, by simp [Text.isBlank], by simp⟩, by cbv⟩

end Query

end DocumentStore
