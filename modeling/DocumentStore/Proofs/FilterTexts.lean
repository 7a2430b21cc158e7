/-
  DocumentStore.Proofs.FilterTexts — what comes of a text that should be a filter.

  A text is refused as no filter, or it is read as one in which each clause names a field, `like` has a text
  behind it and `in` a list (`ReadOrRefused`). Two things are neither. The letter i of a word is met by two
  letters that are a case of it in one direction only; a word written with one of them is found, and its lower case
  is then no operator. And a literal may have a longer number, or more lists and objects one inside the other,
  than the JSON reader takes.

  A word of plain letters is the lower case of what it was taken from exactly if neither of the two letters
  stands there (`lowerFrom_eq_iff`), so each piece of the text is refused, read or slips through for one of these
  two reasons (`Slips`). The first piece that cannot be read decides what comes of the text, and its failure is
  none that a caller is told about exactly if it slips through (`read_or_refused_iff`). What a piece and its
  literal are made of stands in the text, so nothing slips through of a short text without the two letters.
-/

import DocumentStore.Proofs.Connectives
import DocumentStore.Proofs.JsonLimits
import DocumentStore.Proofs.QueryFaults

namespace DocumentStore

/-! ## JSON texts that are lists -/

namespace Json

section Lists

variable {room steps : Nat} {cs rest : List Char} {v : Value}

theorem readValue_bracket (h : readValue room steps ('[' :: cs) = .ok (v, rest)) :
    ∃ items, v = .list items := by
  cases steps with
  | zero => cases h
  | succ steps =>
    cases room with
    | zero => cases h
    | succ room =>
      rw [readValue] at h
      split at h
      · cases h
        exact ⟨[], rfl⟩
      · obtain ⟨⟨items, r⟩, -, he⟩ := Result.map_eq_ok.mp h
        cases he
        exact ⟨items, rfl⟩

theorem readChars_bracket (h : readChars ('[' :: cs) = .ok v) : ∃ items, v = .list items := by
  have hmark : ('[' :: cs).head? ≠ some byteOrderMark := show some '[' ≠ some byteOrderMark by decide
  have hskip : skipSpace ('[' :: cs) = '[' :: cs := rfl
  rw [readChars, if_neg hmark, hskip] at h
  split at h
  · cases h
  · rename_i hvalue
    split at h
    · cases h
      exact readValue_bracket hvalue
    · cases h

end Lists

theorem Excess.not_isRefusal (what : Excess) : ¬ what.failure.IsRefusal := by
  rcases what with n | nest
  · simp [Excess.failure, Failure.IsRefusal, Failure.refusal?]
  · cases nest <;> exact Failure.not_isRefusal_nesting _

end Json

namespace Query

/-! ## Words and their lower case -/

/-- The letter is met by the i of a word, though it does not become that i in lower case. -/
def IsDisguise (c : Char) : Prop := c = 'İ' ∨ c = 'ı'

instance (c : Char) : Decidable (IsDisguise c) := inferInstanceAs (Decidable (_ ∨ _))

section Words

variable {p c : Char} {word written cs rest : List Char}

theorem toNat_lt_of_toLower (hp : p.toNat < 128) (h : c.toLower = p) : c.toNat < 128 := by
  rcases toLower_cases c with hself | ⟨-, hhigh, -⟩
  · rw [← hself, h]
    exact hp
  · omega

/-- What meets a plain letter has it as its lower case, or is a disguise. -/
theorem meets_cases (hp : p.toNat < 128) (h : meets p c = true) :
    IsDisguise c ∨ ¬ IsDisguise c ∧ c ≠ 'Σ' ∧ Text.lowerChar c = [p] := by
  simp only [meets, Bool.or_eq_true, Bool.and_eq_true, beq_iff_eq] at h
  rcases h with (hlower | ⟨-, hdisguise⟩) | ⟨rfl, rfl⟩
  · have hc := toNat_lt_of_toLower hp hlower
    refine Or.inr ⟨?_, ?_, ?_⟩
    · rintro (rfl | rfl) <;> exact absurd hc (by decide)
    · rintro rfl
      exact absurd hc (by decide)
    · have hascii : Text.isAscii c = true := decide_eq_true hc
      rw [Text.lowerChar, if_pos hascii, hlower]
  · exact Or.inl hdisguise
  · exact Or.inr (by decide +kernel)

/-- A word is taken off the front of a text, where each of its letters is met. -/
theorem takeWord_spec (h : takeWord word cs = some (written, rest)) :
    cs = written ++ rest ∧ List.Forall₂ (fun p c => meets p c = true) word written := by
  induction word generalizing cs written with
  | nil =>
    cases h
    exact ⟨rfl, .nil⟩
  | cons p ps ih =>
    cases cs with
    | nil => cases h
    | cons c cs =>
      rw [takeWord] at h
      split at h
      · rename_i hmeets
        obtain ⟨⟨w, r⟩, htake, he⟩ := Option.map_eq_some_iff.mp h
        cases he
        obtain ⟨rfl, hrest⟩ := ih htake
        exact ⟨rfl, .cons hmeets hrest⟩
      · cases h

/-- No disguise becomes a plain letter in lower case, so a word is its own lower case unless one stands in it. -/
theorem lowerFrom_eq_iff (h : List.Forall₂ (fun p c => meets p c = true) word written)
    (hword : ∀ p ∈ word, p.toNat < 128) (before : List Char) :
    Text.lowerFrom before written = word ↔ ∀ c ∈ written, ¬ IsDisguise c := by
  induction h generalizing before with
  | nil => simp [Text.lowerFrom]
  | @cons p c word written hmeets _ ih =>
    obtain ⟨hp, hrest⟩ := List.forall_mem_cons.mp hword
    rw [List.forall_mem_cons, ← ih hrest (c :: before)]
    rcases meets_cases hp hmeets with hdisguise | ⟨hplain, hsigma, hlower⟩
    · refine iff_of_false (fun he => ?_) fun hall => hall.1 hdisguise
      rcases hdisguise with rfl | rfl
      · have hdots : 'i' :: '\u0307' :: Text.lowerFrom ('İ' :: before) written = p :: word := he
        have hmem : '\u0307' ∈ word := (List.cons.inj hdots).2 ▸ List.mem_cons_self
        exact absurd (hrest _ hmem) (by decide)
      · have hlower : Text.lowerChar 'ı' = ['ı'] := by decide +kernel
        rw [Text.lowerFrom, if_neg (by decide), hlower, List.cons_append, List.cons.injEq] at he
        rw [← he.1] at hp
        exact absurd hp (by decide)
    · rw [Text.lowerFrom, if_neg hsigma, hlower, List.cons_append, List.nil_append, List.cons.injEq]
      exact ⟨fun he => ⟨hplain, he.2⟩, fun he => ⟨rfl, he.2⟩⟩

theorem Operator.text_plain (op : Operator) : ∀ p ∈ op.text.toList, p.toNat < 128 := by
  cases op <;> simp [Operator.text]

end Words

/-! ## Pieces -/

def ClauseParts.IsDisguised (parts : ClauseParts) : Prop := ∃ c ∈ parts.written, IsDisguise c

structure Clause.IsFormed (clause : Clause) : Prop where
  named : clause.field ≠ ""
  trimmed : Text.trim clause.field.toList = clause.field.toList
  like_text : clause.operator = .like → ∃ s, clause.literal = .text s
  among_list : clause.operator = .among → ∃ items, clause.literal = .list items

inductive Slips (piece : List Char) : Failure → Prop
  /-- The word was found, but its lower case is no operator. -/
  | word {parts : ClauseParts} (hcut : splitClause (Text.trim piece) = some parts) (hnamed : Text.trim parts.field ≠ [])
      (hword : parts.IsDisguised) : Slips piece (.value (.operator (String.ofList (Text.lowerChars parts.written))))
  /-- The literal has more digits in a row, or more lists and objects in one another, than are read. -/
  | literal {parts : ClauseParts} {json : List Char} {what : Json.Excess}
      (hcut : splitClause (Text.trim piece) = some parts) (hnamed : Text.trim parts.field ≠ [])
      (hword : ¬ parts.IsDisguised) (hjson : literalText parts.operator (Text.trim parts.literal) = some json)
      (hread : Json.readChars json = .error (.excess what)) : Slips piece what.failure

section Literals

variable {op : Operator} {cs json : List Char} {v : Value} {f : Failure} {what : Json.Excess}

theorem readLiteral_eq_ok (h : readLiteral cs = .ok v) : Json.readChars cs = .ok v := by
  unfold readLiteral at h
  split at h
  · rename_i hread
    cases h
    exact hread
  · cases h
  · cases h

theorem readOperand_excess (hjson : literalText op cs = some json) (hread : Json.readChars json = .error (.excess what)) :
    readOperand op cs = .error what.failure := by
  have hliteral : readLiteral json = .error what.failure := by rw [readLiteral, hread]
  cases op with
  | among =>
    obtain ⟨inner, hinner, rfl⟩ := Option.map_eq_some_iff.mp hjson
    rw [readOperand, hinner]
    exact hliteral
  | like =>
    cases hjson
    rw [readOperand, hliteral]
  | _ =>
    cases hjson
    exact hliteral

theorem readOperand_formed (h : readOperand op cs = .ok v) :
    (op = .like → ∃ s, v = .text s) ∧ (op = .among → ∃ items, v = .list items) := by
  constructor
  · rintro rfl
    rw [readOperand] at h
    split at h
    · cases h
      exact ⟨_, rfl⟩
    · cases h
    · cases h
  · rintro rfl
    rw [readOperand] at h
    split at h
    · exact Json.readChars_bracket (readLiteral_eq_ok h)
    · cases h

end Literals

section Pieces

variable {piece cs : List Char} {clause : Clause} {parts : ClauseParts} {f : Failure}

/-- A piece is cut at its operator, of which each letter is met. -/
theorem splitClause_spec (h : splitClause cs = some parts) :
    cs = parts.field ++ parts.written ++ parts.literal ∧
      List.Forall₂ (fun p c => meets p c = true) parts.operator.text.toList parts.written := by
  induction cs generalizing parts with
  | nil => cases h
  | cons c cs ih =>
    rw [splitClause] at h
    split at h
    · rename_i op written rest hhere
      cases h
      obtain ⟨op', -, hop⟩ := List.exists_of_findSome?_eq_some hhere
      split at hop
      · rename_i htake
        cases hop
        obtain ⟨rfl, hmeets⟩ := takeWord_spec htake
        exact ⟨rfl, hmeets⟩
      · cases hop
    · obtain ⟨inner, hinner, rfl⟩ := Option.map_eq_some_iff.mp h
      obtain ⟨hcs, hmeets⟩ := ih hinner
      exact ⟨congrArg (c :: ·) hcs, hmeets⟩

/-- The word is refused exactly if it is disguised. -/
theorem lowerChars_ne_iff (h : splitClause cs = some parts) :
    Text.lowerChars parts.written ≠ parts.operator.text.toList ↔ parts.IsDisguised := by
  rw [Text.lowerChars, ne_eq, lowerFrom_eq_iff (splitClause_spec h).2 parts.operator.text_plain, ClauseParts.IsDisguised]
  simp only [not_forall, not_not, exists_prop]

theorem isFormed_of_parse (h : Clause.parse piece = .ok clause) : clause.IsFormed := by
  unfold Clause.parse at h
  split at h
  · cases h
  rename_i parts _
  simp only [Clause.ofParts] at h
  split at h
  · cases h
  rename_i hnamed
  split at h
  · cases h
  obtain ⟨literal, hliteral, rfl⟩ := Result.map_eq_ok.mp h
  obtain ⟨hlike, hamong⟩ := readOperand_formed hliteral
  refine ⟨fun he => hnamed ?_, ?_, hlike, hamong⟩
  · have hempty := congrArg String.toList he
    rw [String.toList_ofList] at hempty
    exact List.isEmpty_iff.mpr hempty
  · rw [String.toList_ofList]
    exact Text.trim_trim _

theorem Slips.parse_eq (h : Slips piece f) : Clause.parse piece = .error f := by
  cases h with
  | word hcut hnamed hword =>
    have hempty := mt List.isEmpty_iff.mp hnamed
    have hlower := (lowerChars_ne_iff hcut).mpr hword
    simp only [Clause.parse, hcut, Clause.ofParts, if_neg hempty, if_pos hlower]
  | literal hcut hnamed hword hjson hread =>
    have hempty := mt List.isEmpty_iff.mp hnamed
    have hlower := mt (lowerChars_ne_iff hcut).mp hword
    simp only [Clause.parse, hcut, Clause.ofParts, if_neg hempty, if_neg hlower, readOperand_excess hjson hread]
    rfl

theorem Slips.not_isRefusal (h : Slips piece f) : ¬ f.IsRefusal := by
  cases h with
  | word => simp [Failure.IsRefusal, Failure.refusal?]
  | literal => exact Json.Excess.not_isRefusal _

/-- A piece that cannot be read is refused or slips through. -/
theorem parse_error_cases (h : Clause.parse piece = .error f) : f = malformedWhere ∨ Slips piece f := by
  refine (Clause.parse_cases h).imp_right ?_
  rintro ⟨parts, hcut, hnamed, ⟨hword, rfl⟩ | ⟨hword, json, what, hjson, hread, rfl⟩⟩
  · exact .word hcut hnamed ((lowerChars_ne_iff hcut).mp hword)
  · exact .literal hcut hnamed (fun hdisguised => (lowerChars_ne_iff hcut).mpr hdisguised hword) hjson hread

/-- The JSON text of a literal is not longer than the literal. -/
theorem length_literalText_le {op : Operator} {json : List Char} (h : literalText op cs = some json) :
    json.length ≤ cs.length := by
  cases op with
  | among =>
    obtain ⟨inner, hinner, rfl⟩ := Option.map_eq_some_iff.mp h
    unfold bracketed at hinner
    split at hinner
    · rename_i before c rest hopen
      obtain ⟨⟨found, after⟩, hclose, rfl⟩ := Option.map_eq_some_iff.mp hinner
      rw [Text.eq_of_cut hopen, Text.eq_of_cut hclose]
      simp only [List.length_append, List.length_cons, List.length_nil]
      omega
    · cases hinner
  | _ =>
    cases h
    exact Nat.le_refl _

/-- What slips through holds a disguise or is longer than lists and objects may be nested. -/
theorem Slips.disguised_or_long (h : Slips piece f) :
    (∃ c ∈ piece, IsDisguise c) ∨ maxNesting < piece.length := by
  have htrim := Text.isInfix_trim piece
  cases h with
  | word hcut _ hword =>
    obtain ⟨c, hc, hdisguise⟩ := hword
    refine Or.inl ⟨c, htrim.subset ?_, hdisguise⟩
    rw [(splitClause_spec hcut).1]
    exact List.mem_append_left _ (List.mem_append_right _ hc)
  | @literal parts json what hcut _ _ hjson hread =>
    have hlong := Json.long_of_excess hread
    have hliteral := length_literalText_le hjson
    have hinner := (Text.isInfix_trim parts.literal).length_le
    have hwhole := htrim.length_le
    rw [(splitClause_spec hcut).1, List.length_append] at hwhole
    exact Or.inr (by omega)

theorem slips_iff : Slips piece f ↔ Clause.parse piece = .error f ∧ ¬ f.IsRefusal := by
  constructor
  · exact fun h => ⟨h.parse_eq, h.not_isRefusal⟩
  · rintro ⟨hparse, hf⟩
    rcases parse_error_cases hparse with rfl | h
    · exact absurd (Failure.isRefusal_request _) hf
    · exact h

end Pieces

/-! ## Texts -/

theorem eq_of_cutAtWord {word cs before after : List Char} (h : cutAtWord word cs = some (before, after)) :
    ∃ written, cs = before ++ written ++ after := by
  induction cs generalizing before with
  | nil => cases h
  | cons c cs ih =>
    rw [cutAtWord] at h
    split at h
    · rename_i written rest htake
      cases h
      exact ⟨written, (takeWord_spec htake).1⟩
    · obtain ⟨⟨front, back⟩, hcut, he⟩ := Option.map_eq_some_iff.mp h
      cases he
      obtain ⟨written, rfl⟩ := ih hcut
      exact ⟨written, rfl⟩

/-- A piece is a part of the text, by recursion on what is left of the text behind the pieces before it. -/
theorem isInfix_of_mem_piecesAt {k : Connective} {cs piece : List Char} (h : piece ∈ piecesAt k cs) : piece <:+: cs := by
  rw [piecesAt] at h
  split at h
  · obtain rfl := List.mem_singleton.mp h
    exact List.infix_refl _
  · rename_i before after hcut
    obtain ⟨written, rfl⟩ := eq_of_cutAtWord hcut
    rcases List.mem_cons.mp h with rfl | hrest
    · exact ⟨[], written ++ after, by rw [List.nil_append, List.append_assoc]⟩
    · have := cutAtWord_length k.word_ne_nil hcut
      exact (isInfix_of_mem_piecesAt hrest).trans (List.suffix_append _ _).isInfix
termination_by cs.length

def piecesOf (text : String) : List (List Char) :=
  piecesAt (connectiveOf (Text.trim text.toList)) (Text.trim text.toList)

def FirstSlips (text : String) (f : Failure) : Prop :=
  ∃ front piece back, piecesOf text = front ++ piece :: back ∧ (∀ t ∈ front, (Clause.parse t).isOk = true) ∧ Slips piece f

/-- The text is refused as no filter, or is one with a clause at least, all of them formed. -/
def ReadOrRefused (text : String) : Prop :=
  Filter.parse text = .error malformedWhere ∨
    ∃ filter, Filter.parse text = .ok filter ∧ filter.clauses ≠ [] ∧ ∀ clause ∈ filter.clauses, clause.IsFormed

section Texts

variable {text : String} {filter : Filter} {f : Failure}

theorem parse_eq_error_iff :
    Filter.parse text = .error f ↔
      ∃ front piece back, piecesOf text = front ++ piece :: back ∧ (∀ t ∈ front, (Clause.parse t).isOk = true) ∧
        Clause.parse piece = .error f := by
  rw [Filter.parse, Result.map_eq_error]
  exact parseClauses_eq_error_iff

theorem firstSlips_iff : FirstSlips text f ↔ Filter.parse text = .error f ∧ ¬ f.IsRefusal := by
  simp only [FirstSlips, slips_iff, parse_eq_error_iff]
  constructor
  · rintro ⟨front, piece, back, hpieces, hfront, hparse, hf⟩
    exact ⟨⟨front, piece, back, hpieces, hfront, hparse⟩, hf⟩
  · rintro ⟨⟨front, piece, back, hpieces, hfront, hparse⟩, hf⟩
    exact ⟨front, piece, back, hpieces, hfront, hparse, hf⟩

theorem clauses_formed (h : Filter.parse text = .ok filter) :
    filter.clauses ≠ [] ∧ ∀ clause ∈ filter.clauses, clause.IsFormed := by
  obtain ⟨clauses, hclauses, rfl⟩ := Result.map_eq_ok.mp h
  have hread := parseClauses_eq_ok_iff.mp hclauses
  constructor
  · rintro rfl
    exact piecesAt_ne_nil _ _ (List.forall₂_nil_right_iff.mp hread)
  · intro clause hclause
    obtain ⟨piece, -, hparse⟩ := Result.exists_of_mem_right hread hclause
    exact isFormed_of_parse hparse

/-- Nothing slips through of a short text without disguises. -/
theorem not_firstSlips (hplain : ∀ c ∈ text.toList, ¬ IsDisguise c) (hshort : text.length ≤ maxNesting) :
    ¬ FirstSlips text f := by
  rintro ⟨front, piece, back, hpieces, -, hslips⟩
  have hmem : piece ∈ piecesOf text := by
    rw [hpieces]
    exact List.mem_append_right _ List.mem_cons_self
  have hwithin : piece <:+: text.toList := (isInfix_of_mem_piecesAt hmem).trans (Text.isInfix_trim _)
  rcases hslips.disguised_or_long with ⟨c, hc, hdisguise⟩ | hlong
  · exact hplain c (hwithin.subset hc) hdisguise
  · have hlength := hwithin.length_le
    rw [String.length_toList] at hlength
    omega

theorem readOrRefused_iff : ReadOrRefused text ↔ ¬ ∃ f, FirstSlips text f := by
  simp only [firstSlips_iff]
  constructor
  · rintro (hrefused | ⟨filter, hread, -⟩) ⟨f, hparse, hf⟩
    · cases hrefused.symm.trans hparse
      exact hf (Failure.isRefusal_request _)
    · cases hread.symm.trans hparse
  · intro hnone
    cases hparse : Filter.parse text with
    | ok filter => exact Or.inr ⟨filter, hparse, clauses_formed hparse⟩
    | error f =>
      obtain ⟨front, piece, back, -, -, hpiece⟩ := parse_eq_error_iff.mp hparse
      rcases parse_error_cases hpiece with rfl | hslips
      · exact Or.inl hparse
      · exact absurd ⟨f, hparse, hslips.not_isRefusal⟩ hnone

/-- A text is refused or read, unless the first of its pieces that cannot be read slips through. Then it fails as
that piece does, and it fails with what no caller is told about only then. Nothing slips through of a text
without disguises that is not longer than lists and objects may be nested, as far as that was measured. -/
theorem read_or_refused_iff (text : String) :
    (ReadOrRefused text ↔ ¬ ∃ f, FirstSlips text f) ∧
    (∀ f, FirstSlips text f ↔ Filter.parse text = .error f ∧ ¬ f.IsRefusal) ∧
    ((∀ c ∈ text.toList, ¬ IsDisguise c) → text.length ≤ maxNesting → ReadOrRefused text) := by
  refine ⟨readOrRefused_iff, fun f => firstSlips_iff, fun hplain hshort => readOrRefused_iff.mpr ?_⟩
  rintro ⟨f, hslips⟩
  exact not_firstSlips hplain hshort hslips

end Texts

theorem read_or_refused_iff_dune :
    (∀ c ∈ "title LIKE \"dune\"".toList, ¬ IsDisguise c) ∧ "title LIKE \"dune\"".length ≤ maxNesting ∧
      ReadOrRefused "title LIKE \"dune\"" := by
  have hplain : ∀ c ∈ "title LIKE \"dune\"".toList, ¬ IsDisguise c := by simp [IsDisguise]
  have hshort : "title LIKE \"dune\"".length ≤ maxNesting := show 17 ≤ 980 by decide
  exact ⟨hplain, hshort, (read_or_refused_iff _).2.2 hplain hshort⟩

/-- A word with a dotless i is taken for `like`, and is then no operator. -/
theorem dotless_like_is_no_refusal :
    Filter.parse "title lıke \"dune\"" = .error (.value (.operator " lıke ")) ∧
      ¬ ReadOrRefused "title lıke \"dune\"" := by
  have hparse : Filter.parse "title lıke \"dune\"" = .error (.value (.operator " lıke ")) := by decide +kernel
  refine ⟨hparse, ?_⟩
  rintro (hrefused | ⟨filter, hread, -⟩)
  · cases hrefused.symm.trans hparse
  · cases hread.symm.trans hparse

end Query

end DocumentStore
