/-
  DocumentStore.Proofs.Connectives — a filter text is cut where its clauses were joined.

  A word is mentioned where it stands in some letter case (`Mentions`), and a text is cut at the first
  mention. A connective has a blank at either end and none inside, so around a blank of the text it is
  mentioned on one side or on the other, with that blank (`mentions_split`). No mention reaches across
  the blanks of a joint: a text that is joined of pieces which, with a blank at either end, mention no
  connective is cut at the joints and nowhere else (`Joined.piecesAt`), and the other connective is not
  mentioned in it at all (`Joined.not_mentions`).

  So such a filter can be read exactly if each of its pieces is a clause, it has these clauses in order,
  and it accepts what all of them accept, or any (`joined_clauses`).
-/

import Mathlib
import DocumentStore.Proofs.Result
import DocumentStore.Proofs.Text
import DocumentStore.Query.Filter

namespace DocumentStore

namespace Query

/-! ## Words in a text -/

/-- The text is the word in some letter case. -/
def Spells (word written : List Char) : Prop := written.map Char.toLower = word

instance (word written : List Char) : Decidable (Spells word written) := inferInstanceAs (Decidable (_ = _))

def Mentions (word cs : List Char) : Prop :=
  ∃ before written after, cs = before ++ written ++ after ∧ Spells word written

section Words

variable {word written rest cs a b : List Char} {p c : Char}

/-- A character is its own lower case, or a capital thirty-two below it. -/
theorem toLower_cases (c : Char) :
    c.toLower = c ∨ (65 ≤ c.toNat ∧ c.toNat ≤ 90 ∧ c.toLower.toNat = c.toNat + 32) := by
  by_cases hupper : c.val ≥ 'A'.val ∧ c.val ≤ 'Z'.val
  · have hlow : 65 ≤ c.toNat := hupper.1
    have hhigh : c.toNat ≤ 90 := hupper.2
    have hval : c.toLower.val = c.val + ('a'.val - 'A'.val) := congrArg Char.val (dif_pos hupper)
    have hstep : ('a'.val - 'A'.val).toNat = 32 := by decide
    have hnat : c.toLower.toNat = (c.val + ('a'.val - 'A'.val)).toNat := congrArg UInt32.toNat hval
    rw [UInt32.toNat_add, hstep] at hnat
    refine Or.inr ⟨hlow, hhigh, ?_⟩
    show c.toLower.toNat = c.val.toNat + 32
    change c.val.toNat ≤ 90 at hhigh
    omega
  · exact Or.inl (dif_neg hupper)

/-- A character below the letters has no other letter case. -/
theorem eq_of_toLower {c d : Char} (hd : d.toNat < 97) (h : c.toLower = d) : c = d := by
  rcases toLower_cases c with hself | ⟨hlow, -, hlower⟩
  · exact hself.symm.trans h
  · rw [h] at hlower
    omega

theorem meets_iff (hi : p ≠ 'i') (hk : p ≠ 'k') : meets p c = true ↔ c.toLower = p := by
  simp [meets, hi, hk]

/-- A word without the two letters that are met by more than their own two cases is taken where it is
spelled. -/
theorem takeWord_eq_some_iff (hword : ∀ p ∈ word, p ≠ 'i' ∧ p ≠ 'k') :
    takeWord word cs = some (written, rest) ↔ cs = written ++ rest ∧ Spells word written := by
  induction word generalizing cs written with
  | nil =>
    simp only [takeWord, Option.some.injEq, Prod.mk.injEq, Spells, List.map_eq_nil_iff]
    constructor
    · rintro ⟨rfl, rfl⟩
      exact ⟨rfl, rfl⟩
    · rintro ⟨rfl, rfl⟩
      exact ⟨rfl, rfl⟩
  | cons p ps ih =>
    obtain ⟨⟨hi, hk⟩, hps⟩ := List.forall_mem_cons.mp hword
    cases cs with
    | nil =>
      simp only [takeWord, reduceCtorEq, false_iff, not_and]
      intro hnil hspells
      obtain ⟨rfl, -⟩ := List.append_eq_nil_iff.mp hnil.symm
      cases hspells
    | cons c cs =>
      rw [takeWord]
      cases written with
      | nil =>
        have hno : ¬ Spells (p :: ps) [] := fun h => by cases h
        simp only [hno, and_false, iff_false]
        split
        · intro h
          obtain ⟨_, -, he⟩ := Option.map_eq_some_iff.mp h
          cases he
        · exact fun h => by cases h
      | cons d written =>
        have hspells : Spells (p :: ps) (d :: written) ↔ d.toLower = p ∧ Spells ps written := by
          simp [Spells]
        rw [hspells, List.cons_append, List.cons.injEq]
        split
        · rename_i hmeets
          rw [meets_iff hi hk] at hmeets
          rw [Option.map_eq_some_iff]
          constructor
          · rintro ⟨⟨w, r⟩, htake, he⟩
            cases he
            obtain ⟨rfl, hw⟩ := (ih hps).mp htake
            exact ⟨⟨rfl, rfl⟩, hmeets, hw⟩
          · rintro ⟨⟨rfl, rfl⟩, -, hw⟩
            exact ⟨(written, rest), (ih hps).mpr ⟨rfl, hw⟩, rfl⟩
        · rename_i hmeets
          simp only [reduceCtorEq, false_iff]
          rintro ⟨⟨rfl, -⟩, hd, -⟩
          exact hmeets ((meets_iff hi hk).mpr hd)

theorem Mentions.append_left (h : Mentions word b) (a : List Char) : Mentions word (a ++ b) := by
  obtain ⟨before, written, after, rfl, hw⟩ := h
  exact ⟨a ++ before, written, after, by simp only [List.append_assoc], hw⟩

theorem Mentions.append_right (h : Mentions word a) (b : List Char) : Mentions word (a ++ b) := by
  obtain ⟨before, written, after, rfl, hw⟩ := h
  exact ⟨before, written, after ++ b, by simp only [List.append_assoc], hw⟩

theorem mentions_cons :
    Mentions word (c :: cs) ↔
      (∃ written rest, c :: cs = written ++ rest ∧ Spells word written) ∨ Mentions word cs := by
  constructor
  · rintro ⟨_ | ⟨d, before⟩, written, after, he, hw⟩
    · exact Or.inl ⟨written, after, he, hw⟩
    · cases he
      exact Or.inr ⟨before, written, after, rfl, hw⟩
  · rintro (⟨written, rest, he, hw⟩ | h)
    · exact ⟨[], written, rest, he, hw⟩
    · exact h.append_left [c]

/-- A text is cut at a word exactly if it mentions it. -/
theorem cutAtWord_eq_none_iff (hword : ∀ p ∈ word, p ≠ 'i' ∧ p ≠ 'k') (hne : word ≠ []) :
    cutAtWord word cs = none ↔ ¬ Mentions word cs := by
  induction cs with
  | nil =>
    simp only [cutAtWord, true_iff]
    rintro ⟨before, written, after, he, rfl⟩
    obtain ⟨hw, -⟩ := List.append_eq_nil_iff.mp he.symm
    obtain ⟨-, rfl⟩ := List.append_eq_nil_iff.mp hw
    exact hne rfl
  | cons c cs ih =>
    rw [cutAtWord, mentions_cons]
    cases htake : takeWord word (c :: cs) with
    | some found =>
      obtain ⟨written, rest⟩ := found
      have hfront := (takeWord_eq_some_iff hword).mp htake
      simp only [reduceCtorEq, false_iff, not_not]
      exact Or.inl ⟨written, rest, hfront⟩
    | none =>
      have hfront : ¬ ∃ written rest, c :: cs = written ++ rest ∧ Spells word written := by
        rintro ⟨written, rest, h⟩
        cases htake.symm.trans ((takeWord_eq_some_iff hword).mpr h)
      simp only [Option.map_eq_none_iff, ih, hfront, false_or]

end Words

/-! ## Connectives -/

section Connectives

variable {k other : Connective} {a b written joint t cs : List Char}

theorem Connective.word_plain (k : Connective) : ∀ p ∈ k.word, p ≠ 'i' ∧ p ≠ 'k' := by
  cases k <;> simp [Connective.word]

/-- A connective is a blank, letters and a blank. -/
theorem Connective.exists_word (k : Connective) : ∃ letters, k.word = ' ' :: letters ++ [' '] ∧ ' ' ∉ letters := by
  cases k with
  | and => exact ⟨['a', 'n', 'd'], rfl, by decide⟩
  | or => exact ⟨['o', 'r'], rfl, by decide⟩

/-- A blank within a connective is its first or its last character. -/
theorem blank_at_end (h : Spells k.word (a ++ ' ' :: b)) : a = [] ∨ b = [] := by
  obtain ⟨letters, hword, hblank⟩ := k.exists_word
  by_contra hne
  obtain ⟨ha, hb⟩ := not_or.mp hne
  obtain ⟨x, a, rfl⟩ := List.exists_cons_of_ne_nil ha
  obtain ⟨b, y, rfl⟩ : ∃ b' y, b = b' ++ [y] := ⟨_, _, (List.dropLast_concat_getLast hb).symm⟩
  have hmap : x.toLower :: ((a ++ ' ' :: b).map Char.toLower ++ [y.toLower]) = ' ' :: (letters ++ [' ']) := by
    rw [← List.cons_append, ← List.cons_append, ← hword, ← h]
    simp
  have hinner : (a ++ ' ' :: b).map Char.toLower = letters := List.append_inj_left' (List.cons.inj hmap).2 rfl
  refine hblank (hinner ▸ List.mem_map.mpr ⟨' ', ?_, rfl⟩)
  exact List.mem_append_right a List.mem_cons_self

/-- What spells a connective begins and ends with a blank. -/
theorem exists_joint (h : Spells k.word joint) : ∃ letters, joint = ' ' :: letters ++ [' '] := by
  obtain ⟨letters, hword, -⟩ := k.exists_word
  obtain ⟨front, back, rfl, hfront, hback⟩ := List.map_eq_append_iff.mp (h.trans hword)
  obtain ⟨first, written, rfl, hfirst, -⟩ := List.map_eq_cons_iff.mp hfront
  obtain ⟨last, rest, rfl, hlast, hrest⟩ := List.map_eq_cons_iff.mp hback
  obtain rfl := List.map_eq_nil_iff.mp hrest
  rw [eq_of_toLower (by decide) hfirst, eq_of_toLower (by decide) hlast]
  exact ⟨written, rfl⟩

/-- What spells a connective from the start of a text on reaches a blank of the text at most. -/
theorem spells_before_blank {rest : List Char} (hw : Spells k.word written) (hane : a ≠ [])
    (h : a ++ ' ' :: b = written ++ rest) : Mentions k.word (a ++ [' ']) := by
  rcases List.append_eq_append_iff.mp h with ⟨s, rfl, hb⟩ | ⟨s, rfl, -⟩
  · cases s with
    | nil => exact ⟨[], a, [' '], by simp, by simpa using hw⟩
    | cons x s =>
      cases hb
      rcases blank_at_end hw with rfl | rfl
      · exact absurd rfl hane
      · exact ⟨[], a ++ [' '], [], by simp, hw⟩
  · exact ⟨[], written, s ++ [' '], by simp, hw⟩

/-- Around a blank a connective is mentioned on one side or on the other. -/
theorem mentions_split :
    Mentions k.word (a ++ ' ' :: b) ↔ Mentions k.word (a ++ [' ']) ∨ Mentions k.word (' ' :: b) := by
  constructor
  · rintro ⟨before, written, after, he, hw⟩
    rw [List.append_assoc] at he
    rcases List.append_eq_append_iff.mp he with ⟨s, rfl, hb⟩ | ⟨s, rfl, hs⟩
    · exact Or.inr ⟨s, written, after, by rw [hb, List.append_assoc], hw⟩
    · cases s with
      | nil => exact Or.inr ⟨[], written, after, by simpa using hs.symm, hw⟩
      | cons x s =>
        have hfront := spells_before_blank (a := x :: s) (b := b) hw (List.cons_ne_nil x s) hs.symm
        exact Or.inl (by simpa using hfront.append_left before)
  · rintro (h | h)
    · simpa only [List.append_assoc, List.singleton_append] using h.append_right b
    · exact h.append_left a

/-- A text is cut at a joint, if the connective is not mentioned before it. -/
theorem cutAtWord_joint (hjoint : Spells k.word joint) (ht : ¬ Mentions k.word (t ++ [' '])) (cs : List Char) :
    cutAtWord k.word (t ++ joint ++ cs) = some (t, cs) := by
  obtain ⟨letters, rfl⟩ := exists_joint hjoint
  induction t with
  | nil =>
    have htake : takeWord k.word (' ' :: letters ++ [' '] ++ cs) = some (' ' :: letters ++ [' '], cs) :=
      (takeWord_eq_some_iff k.word_plain).mpr ⟨rfl, hjoint⟩
    rw [List.nil_append, List.cons_append, List.cons_append, cutAtWord]
    rw [List.cons_append, List.cons_append] at htake
    rw [htake]
  | cons c t ih =>
    have hfront : takeWord k.word (c :: (t ++ (' ' :: letters ++ [' ']) ++ cs)) = none := by
      by_contra hsome
      obtain ⟨⟨written, rest⟩, htake⟩ := Option.ne_none_iff_exists'.mp hsome
      obtain ⟨he, hw⟩ := (takeWord_eq_some_iff k.word_plain).mp htake
      have hblank : (c :: t) ++ ' ' :: (letters ++ ' ' :: cs) = written ++ rest := by simpa using he
      exact ht (spells_before_blank hw (List.cons_ne_nil c t) hblank)
    rw [List.cons_append, List.cons_append, cutAtWord, hfront, ih fun h => ht (h.append_left [c])]
    rfl

theorem isSome_cutAtWord : (cutAtWord k.word cs).isSome = true ↔ Mentions k.word cs := by
  rw [← not_iff_not, ← cutAtWord_eq_none_iff k.word_plain k.word_ne_nil, Bool.not_eq_true,
    Option.isSome_eq_false_iff, Option.isNone_iff_eq_none]

instance (k : Connective) (cs : List Char) : Decidable (Mentions k.word cs) :=
  decidable_of_iff _ isSome_cutAtWord

/-- One connective is not spelled within the other. -/
theorem eq_of_mentions (h : Mentions other.word joint) (hjoint : Spells k.word joint) : other = k := by
  obtain ⟨before, written, after, rfl, hw⟩ := h
  have hletters : ∀ c ∈ other.word, c ∈ k.word := by
    intro c hc
    rw [← hjoint, List.map_append, List.map_append, hw]
    exact List.mem_append_left _ (List.mem_append_right _ hc)
  cases other <;> cases k
  · rfl
  · exact absurd (hletters 'a' (by decide)) (by decide)
  · exact absurd (hletters 'o' (by decide)) (by decide)
  · rfl

end Connectives

/-! ## Pieces -/

section Pieces

variable {k : Connective} {cs : List Char} {ts : List (List Char)}

theorem piecesAt_of_not_mentions (h : ¬ Mentions k.word cs) : piecesAt k cs = [cs] := by
  have hnone := (cutAtWord_eq_none_iff k.word_plain k.word_ne_nil).mpr h
  rw [piecesAt]
  split
  · rfl
  · rename_i hsome
    cases hnone.symm.trans hsome

theorem piecesAt_of_cut {before after : List Char} (h : cutAtWord k.word cs = some (before, after)) :
    piecesAt k cs = before :: piecesAt k after := by
  rw [piecesAt]
  split
  · rename_i hnone
    cases h.symm.trans hnone
  · rename_i hsome
    cases h.symm.trans hsome
    rfl

theorem piecesAt_ne_nil (k : Connective) (cs : List Char) : piecesAt k cs ≠ [] := by
  rw [piecesAt]
  split <;> exact List.cons_ne_nil _ _

/-- If some connective is mentioned, the text is cut at one that is. -/
theorem mentions_connectiveOf (h : Mentions k.word cs) : Mentions (connectiveOf cs).word cs := by
  unfold connectiveOf
  split
  · rename_i hand
    exact isSome_cutAtWord.mp hand
  split
  · rename_i hor
    exact isSome_cutAtWord.mp hor
  · rename_i hand hor
    cases k with
    | and => exact absurd (isSome_cutAtWord.mpr h) hand
    | or => exact absurd (isSome_cutAtWord.mpr h) hor

theorem parseClauses_cons (t : List Char) (ts : List (List Char)) :
    parseClauses (t :: ts) = (Clause.parse t).bind fun clause => (parseClauses ts).map (clause :: ·) := by
  rw [parseClauses]
  cases Clause.parse t <;> rfl

theorem parseClauses_eq_ok_iff {clauses : List Clause} :
    parseClauses ts = .ok clauses ↔ List.Forall₂ (fun t clause => Clause.parse t = .ok clause) ts clauses :=
  Result.collect_eq_ok_iff parseClauses Clause.parse rfl parseClauses_cons

/-- Pieces cannot be read exactly as the first of them cannot that is no clause. -/
theorem parseClauses_eq_error_iff {f : Failure} :
    parseClauses ts = .error f ↔
      ∃ front t back, ts = front ++ t :: back ∧ (∀ s ∈ front, (Clause.parse s).isOk = true) ∧ Clause.parse t = .error f :=
  Result.collect_eq_error_iff parseClauses Clause.parse rfl parseClauses_cons

/-- A text is read as a single clause exactly if it mentions no connective and is that clause. -/
theorem parse_single_iff (htrim : Text.trim cs = cs) {clause : Clause} :
    Filter.parse (String.ofList cs) = .ok ⟨.and, [clause]⟩ ↔
      (∀ k : Connective, ¬ Mentions k.word cs) ∧ Clause.parse cs = .ok clause := by
  simp only [Filter.parse, String.toList_ofList, htrim, Result.map_eq_ok, parseClauses_eq_ok_iff]
  constructor
  · rintro ⟨clauses, hclauses, he⟩
    obtain rfl := congrArg Filter.clauses he
    have hquiet : ∀ k : Connective, ¬ Mentions k.word cs := by
      intro k hk
      obtain ⟨⟨before, after⟩, hcut⟩ := Option.isSome_iff_exists.mp (isSome_cutAtWord.mpr (mentions_connectiveOf hk))
      obtain ⟨piece, rest, hrest⟩ := List.exists_cons_of_ne_nil (piecesAt_ne_nil (connectiveOf cs) after)
      rw [piecesAt_of_cut hcut, hrest] at hclauses
      have hlength := hclauses.length_eq
      simp at hlength
    rw [piecesAt_of_not_mentions (hquiet _)] at hclauses
    obtain ⟨hclause, -⟩ := List.forall₂_cons.mp hclauses
    exact ⟨hquiet, hclause⟩
  · rintro ⟨hquiet, hclause⟩
    have hand : connectiveOf cs = .and := by
      unfold connectiveOf
      rw [if_neg (isSome_cutAtWord.not.mpr (hquiet .and)), if_neg (isSome_cutAtWord.not.mpr (hquiet .or))]
    rw [hand, piecesAt_of_not_mentions (hquiet .and)]
    exact ⟨[clause], .cons hclause .nil, rfl⟩

end Pieces

/-! ## Joined clauses -/

inductive Joined (k : Connective) : List (List Char) → List Char → Prop
  | one (t : List Char) : Joined k [t] t
  | cons {ts : List (List Char)} {cs : List Char} (t joint : List Char) :
      Spells k.word joint → Joined k ts cs → Joined k (t :: ts) (t ++ joint ++ cs)

/-- A trimmed text in which no connective is mentioned, not even with a blank at either end. -/
structure IsPiece (t : List Char) : Prop where
  nonempty : t ≠ []
  trimmed : Text.trim t = t
  closed : ∀ k : Connective, ¬ Mentions k.word (' ' :: t ++ [' '])

section Joined

variable {k other : Connective} {ts : List (List Char)} {t cs : List Char}

theorem IsPiece.not_mentions (h : IsPiece t) (k : Connective) : ¬ Mentions k.word t := fun hm =>
  h.closed k ((hm.append_left [' ']).append_right [' '])

theorem Joined.trimmed (h : Joined k ts cs) (hts : ∀ t ∈ ts, IsPiece t) : cs ≠ [] ∧ Text.trim cs = cs := by
  induction h with
  | one t =>
    have ht := hts t List.mem_cons_self
    exact ⟨ht.nonempty, ht.trimmed⟩
  | cons t joint _ _ ih =>
    obtain ⟨ht, hrest⟩ := List.forall_mem_cons.mp hts
    obtain ⟨hne, htrim⟩ := ih hrest
    exact ⟨by simp [hne], Text.trim_append ht.trimmed htrim ht.nonempty hne joint⟩

/-- Joined texts mention no other connective than the one that joins them. -/
theorem Joined.not_mentions (h : Joined k ts cs) (hts : ∀ t ∈ ts, IsPiece t) (hne : other ≠ k) :
    ¬ Mentions other.word (' ' :: cs ++ [' ']) := by
  induction h with
  | one t => exact (hts t List.mem_cons_self).closed other
  | cons t joint hjoint _ ih =>
    rename_i ts cs _
    obtain ⟨ht, hrest⟩ := List.forall_mem_cons.mp hts
    obtain ⟨letters, rfl⟩ := exists_joint hjoint
    have hlayout : ' ' :: (t ++ (' ' :: letters ++ [' ']) ++ cs) ++ [' '] =
        (' ' :: t) ++ ' ' :: (letters ++ ' ' :: (cs ++ [' '])) := by simp
    rw [hlayout, mentions_split, not_or]
    refine ⟨ht.closed other, fun hm => ?_⟩
    rcases (mentions_split (a := ' ' :: letters)).mp hm with hm | hm
    · exact hne (eq_of_mentions hm hjoint)
    · exact ih hrest hm

theorem Joined.mentions (h : Joined k ts cs) (hmany : 1 < ts.length) : Mentions k.word cs := by
  cases h with
  | one t => exact absurd hmany (Nat.lt_irrefl 1)
  | cons t joint hjoint _ => exact ⟨t, joint, _, rfl, hjoint⟩

theorem Joined.piecesAt (h : Joined k ts cs) (hts : ∀ t ∈ ts, IsPiece t) : piecesAt k cs = ts := by
  induction h with
  | one t => exact piecesAt_of_not_mentions ((hts t List.mem_cons_self).not_mentions k)
  | cons t joint hjoint _ ih =>
    obtain ⟨ht, hrest⟩ := List.forall_mem_cons.mp hts
    rw [piecesAt_of_cut (cutAtWord_joint hjoint (fun hm => ht.closed k (hm.append_left [' '])) _), ih hrest]

/-- The connective of joined texts is the one that joins them; of a single text it is `and`. -/
theorem Joined.connectiveOf (h : Joined k ts cs) (hts : ∀ t ∈ ts, IsPiece t) (hor : k = .or → 1 < ts.length) :
    connectiveOf cs = k := by
  have hother : ∀ other, other ≠ k → ¬ Mentions other.word cs := fun other hne hm =>
    h.not_mentions hts hne ((hm.append_left [' ']).append_right [' '])
  unfold Query.connectiveOf
  cases k with
  | and =>
    rw [if_neg (isSome_cutAtWord.not.mpr (hother .or (by decide)))]
    split <;> rfl
  | or =>
    rw [if_neg (isSome_cutAtWord.not.mpr (hother .and (by decide))),
      if_pos (isSome_cutAtWord.mpr (h.mentions (hor rfl)))]

theorem Joined.parse_eq (h : Joined k ts cs) (hts : ∀ t ∈ ts, IsPiece t) (hor : k = .or → 1 < ts.length) :
    Filter.parse (String.ofList cs) = (parseClauses ts).map fun clauses => ⟨k, clauses⟩ := by
  simp only [Filter.parse, String.toList_ofList, (h.trimmed hts).2, h.connectiveOf hts hor, h.piecesAt hts]

end Joined

def Connective.Accepts (clauses : List Clause) (record : Record) : Connective → Prop
  | .and => ∀ clause ∈ clauses, clause.accepts record = true
  | .or => ∃ clause ∈ clauses, clause.accepts record = true

theorem Filter.accepts_iff (f : Filter) (record : Record) :
    f.accepts record = true ↔ f.connective.Accepts f.clauses record := by
  obtain ⟨k, clauses⟩ := f
  cases k with
  | and => exact List.all_eq_true
  | or => exact List.any_eq_true

/-- Texts that mention no connective are joined to a filter that can be read exactly if each of them is a
clause; it has these clauses in order, and accepts a record that all of them accept, or any. A single text
counts as joined by `and`. -/
theorem joined_clauses {k : Connective} {ts : List (List Char)} {cs : List Char} (h : Joined k ts cs)
    (hts : ∀ t ∈ ts, IsPiece t) (hor : k = .or → 1 < ts.length) :
    ((Filter.parse (String.ofList cs)).isOk = true ↔ ∀ t ∈ ts, (Clause.parse t).isOk = true) ∧
    ∀ f, Filter.parse (String.ofList cs) = .ok f →
      List.Forall₂ (fun t clause => Clause.parse t = .ok clause) ts f.clauses ∧
        ∀ record, f.accepts record = true ↔ k.Accepts f.clauses record := by
  rw [h.parse_eq hts hor]
  constructor
  · simp only [Result.isOk_eq_true, Result.map_eq_ok, ← Result.exists_forall₂_iff, ← parseClauses_eq_ok_iff]
    constructor
    · rintro ⟨_, clauses, hclauses, -⟩
      exact ⟨clauses, hclauses⟩
    · rintro ⟨clauses, hclauses⟩
      exact ⟨_, clauses, hclauses, rfl⟩
  · intro f hf
    obtain ⟨clauses, hclauses, rfl⟩ := Result.map_eq_ok.mp hf
    exact ⟨parseClauses_eq_ok_iff.mp hclauses, fun record => Filter.accepts_iff ⟨k, clauses⟩ record⟩

/-! ### Two clauses, the second about a connective -/

def highRated : List Char := "rating > 3".toList

def byAnd : List Char := "author=\"and\"".toList

theorem isPiece_highRated : IsPiece highRated := ⟨by decide, by decide, fun k => by cases k <;> decide⟩

theorem isPiece_byAnd : IsPiece byAnd := ⟨by decide, by decide, fun k => by cases k <;> decide⟩

/-- The word within the text joins nothing; the one in capitals between the clauses does. -/
theorem joined_clauses_either :
    Joined .or [highRated, byAnd] "rating > 3 OR author=\"and\"".toList ∧
      (∀ t ∈ [highRated, byAnd], IsPiece t) ∧ 1 < [highRated, byAnd].length ∧
      ∃ f, Filter.parse "rating > 3 OR author=\"and\"" = .ok f ∧
        f.clauses = [⟨"rating", .above, .int 3⟩, ⟨"author", .equal, .text "and"⟩] ∧
        ∀ record, f.accepts record = true ↔ Connective.or.Accepts f.clauses record := by
  have hjoined : Joined .or [highRated, byAnd] "rating > 3 OR author=\"and\"".toList :=
    .cons highRated " OR ".toList (by decide) (.one byAnd)
  have hpieces : ∀ t ∈ [highRated, byAnd], IsPiece t :=
    List.forall_mem_cons.mpr ⟨isPiece_highRated, List.forall_mem_singleton.mpr isPiece_byAnd⟩
  have hrating : Clause.parse highRated = .ok ⟨"rating", .above, .int 3⟩ := by cbv
  have hauthor : Clause.parse byAnd = .ok ⟨"author", .equal, .text "and"⟩ := by cbv
  obtain ⟨hread, hclauses⟩ := joined_clauses hjoined hpieces fun _ => by decide
  have hok : ∀ t ∈ [highRated, byAnd], (Clause.parse t).isOk = true := by
    rw [List.forall_mem_cons, List.forall_mem_singleton, hrating, hauthor]
    exact ⟨rfl, rfl⟩
  rw [String.ofList_toList] at hread hclauses
  obtain ⟨f, hf⟩ := Result.isOk_eq_true.mp (hread.mpr hok)
  obtain ⟨hboth, haccepts⟩ := hclauses f hf
  refine ⟨hjoined, hpieces, by decide, f, hf, ?_, haccepts⟩
  obtain ⟨first, rest, hfirst, hrest, he⟩ := List.forall₂_cons_left_iff.mp hboth
  obtain ⟨second, rest, hsecond, hnil, rfl⟩ := List.forall₂_cons_left_iff.mp hrest
  obtain rfl := List.forall₂_nil_left_iff.mp hnil
  cases hrating.symm.trans hfirst
  cases hauthor.symm.trans hsecond
  exact he

end Query

end DocumentStore
