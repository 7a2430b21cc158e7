/-
  DocumentStore.Proofs.Negation — an exclamation mark turns a rule into its opposite, and blanks make no difference.

  What is read of an expression does not change with a blank at a `Loose` place: at either end, or next to one
  of the marks `!`, `(`, `)` and `,` (`read?_insert`). The reader goes over the text in stretches, and each
  stretch is either over before the blank or has it at a loose place still; only the blanks next to an argument
  are read with it, and these are trimmed.

  An expression with a mark in front is read as the same one, negated (`read?_negated`). The same predicate is
  asked then, whichever one the arguments select, or the other of the two rules that ask nobody (`counters_compile`).
-/

import DocumentStore.Proofs.Named
import DocumentStore.Proofs.Result
import DocumentStore.Proofs.Text
import DocumentStore.Proofs.Writable
import DocumentStore.Rule.Expression

namespace DocumentStore

namespace Text

/-! ## Blanks and words -/

theorem Ranges.has_eq_any (rs : Ranges) (n : Nat) : rs.has n = rs.toList.any fun r => r.1 ≤ n && n ≤ r.2 := by
  rw [Ranges.has, Array.any_toList]

theorem not_isWordChar_of_isBlank {c : Char} (h : isBlank c = true) : isWordChar c = false := by
  -- the table is looked through as a list: to take from an array by index again and again would take long
  have hcodes : ∀ n ∈ blankCodes, isAsciiLetter (Char.ofNat n) = false ∧ isAsciiDigit (Char.ofNat n) = false ∧
      Char.ofNat n ≠ '_' ∧ (wordRanges.toList.any fun r => r.1 ≤ n && n ≤ r.2) = false := by decide +kernel
  obtain ⟨hletter, hdigit, hline, htable⟩ := hcodes c.toNat (mem_blankCodes h)
  rw [Char.ofNat_toNat] at hletter hdigit hline
  simp [isWordChar, Ranges.has_eq_any, hletter, hdigit, hline, htable]

/-! ## Pieces with blanks around them -/

section Pieces

variable {sep c : Char}

theorem splitAt_ne_nil (sep : Char) (cs : List Char) : splitAt sep cs ≠ [] := by
  cases cs with
  | nil => exact List.cons_ne_nil _ _
  | cons c cs =>
    rw [splitAt]
    split
    · exact List.cons_ne_nil _ _
    · split <;> exact List.cons_ne_nil _ _

theorem splitAt_cons_of_ne (hne : c ≠ sep) {cs piece : List Char} {rest : List (List Char)}
    (h : splitAt sep cs = piece :: rest) : splitAt sep (c :: cs) = (c :: piece) :: rest := by
  rw [splitAt, if_neg hne, h]

theorem splitAt_append_sep (sep : Char) (a b : List Char) : splitAt sep (a ++ sep :: b) = splitAt sep a ++ splitAt sep b := by
  induction a with
  | nil => simp [splitAt]
  | cons c a ih =>
    by_cases hc : c = sep
    · rw [List.cons_append, splitAt, if_pos hc, ih, splitAt, if_pos hc, List.cons_append]
    · obtain ⟨piece, rest, hpieces⟩ := List.exists_cons_of_ne_nil (splitAt_ne_nil sep a)
      rw [hpieces, List.cons_append] at ih
      rw [List.cons_append, splitAt_cons_of_ne hc ih, splitAt_cons_of_ne hc hpieces, List.cons_append]

/-- A character at the end belongs to the last piece. -/
theorem splitAt_concat (hne : c ≠ sep) (a : List Char) :
    ∃ front piece, splitAt sep a = front ++ [piece] ∧ splitAt sep (a ++ [c]) = front ++ [piece ++ [c]] := by
  induction a with
  | nil => exact ⟨[], [], rfl, splitAt_cons_of_ne hne rfl⟩
  | cons d a ih =>
    obtain ⟨front, piece, ha, hac⟩ := ih
    by_cases hd : d = sep
    · refine ⟨[] :: front, piece, ?_, ?_⟩
      · rw [splitAt, if_pos hd, ha, List.cons_append]
      · rw [List.cons_append, splitAt, if_pos hd, hac, List.cons_append]
    · cases front with
      | nil => exact ⟨[], d :: piece, splitAt_cons_of_ne hd ha, splitAt_cons_of_ne hd hac⟩
      | cons first front =>
        exact ⟨(d :: first) :: front, piece, splitAt_cons_of_ne hd ha, splitAt_cons_of_ne hd hac⟩

variable (hc : isBlank c = true) (hne : c ≠ sep)

include hc hne

theorem trim_splitAt_concat (a : List Char) : (splitAt sep (a ++ [c])).map trim = (splitAt sep a).map trim := by
  obtain ⟨front, piece, ha, hac⟩ := splitAt_concat hne a
  simp only [ha, hac, List.map_append, List.map_cons, List.map_nil, trim_concat_blank hc]

theorem trim_splitAt_cons (b : List Char) : (splitAt sep (c :: b)).map trim = (splitAt sep b).map trim := by
  obtain ⟨piece, rest, hb⟩ := List.exists_cons_of_ne_nil (splitAt_ne_nil sep b)
  rw [splitAt_cons_of_ne hne hb, hb, List.map_cons, List.map_cons, trim_cons_blank hc]

/-- A blank next to a separator, or at either end, comes off its piece. -/
theorem trim_splitAt_insert {a b : List Char}
    (h : (∀ m, a.getLast? = some m → m = sep) ∨ ∀ m, b.head? = some m → m = sep) :
    (splitAt sep (a ++ c :: b)).map trim = (splitAt sep (a ++ b)).map trim := by
  rcases h with hlast | hhead
  · rcases List.eq_nil_or_concat' a with rfl | ⟨a, m, rfl⟩
    · exact trim_splitAt_cons hc hne b
    · obtain rfl := hlast m List.getLast?_concat
      simp only [List.append_assoc, List.singleton_append, splitAt_append_sep, List.map_append, trim_splitAt_cons hc hne b]
  · cases b with
    | nil => rw [List.append_nil, trim_splitAt_concat hc hne a]
    | cons m b =>
      obtain rfl := hhead m rfl
      have hac : a ++ c :: m :: b = (a ++ [c]) ++ m :: b := by rw [List.append_assoc, List.singleton_append]
      rw [hac, splitAt_append_sep, splitAt_append_sep, List.map_append, List.map_append, trim_splitAt_concat hc hne a]

end Pieces

end Text

namespace Rule

open Text (isBlank isWordChar)

/-! ## Loose places -/

def isMark (c : Char) : Bool := c == '!' || c == '(' || c == ')' || c == ','

/-- Between the two texts nothing but a mark stands right before the place, or nothing but a mark right behind it. -/
def Loose (u v : List Char) : Prop :=
  (∀ m, u.getLast? = some m → isMark m = true) ∨ ∀ m, v.head? = some m → isMark m = true

/-- The second text is the first with blanks put or taken at loose places. -/
inductive Respaced (cs : List Char) : List Char → Prop
  | same : Respaced cs cs
  | put {u v : List Char} {c : Char} (hplace : Loose u v) (hc : isBlank c = true) (h : Respaced cs (u ++ v)) :
      Respaced cs (u ++ c :: v)
  | taken {u v : List Char} {c : Char} (hplace : Loose u v) (hc : isBlank c = true) (h : Respaced cs (u ++ c :: v)) :
      Respaced cs (u ++ v)

section Marks

variable {c m : Char} {u v w : List Char}

theorem isMark_cases (h : isMark m = true) : m = '!' ∨ m = '(' ∨ m = ')' ∨ m = ',' := by
  simpa [isMark, or_assoc] using h

theorem not_isWordChar_of_isMark (h : isMark m = true) : isWordChar m = false := by
  rcases isMark_cases h with rfl | rfl | rfl | rfl <;> decide

/-- Of the marks only the comma stands between brackets. -/
theorem eq_comma_of_isMark (h : isMark m = true) (harg : isArgumentChar m = true) : m = ',' := by
  rcases isMark_cases h with rfl | rfl | rfl | rfl
  · exact absurd harg (by decide)
  · exact absurd harg (by decide)
  · exact absurd harg (by decide)
  · rfl

theorem isArgumentChar_of_isBlank (h : isBlank c = true) : isArgumentChar c = true := by simp [isArgumentChar, h]

theorem ne_comma_of_isBlank (h : isBlank c = true) : c ≠ ',' := by
  rintro rfl
  exact absurd h (by decide)

theorem Loose.suffix (h : Loose u v) (hw : w <:+ u) : Loose w v := by
  refine h.imp_left fun hlast m hm => hlast m ?_
  obtain ⟨t, rfl⟩ := hw
  rw [List.getLast?_append, hm]
  rfl

end Marks

/-! ## A blank at a loose place -/

section Insert

variable {c x : Char} {u v w : List Char} (hc : isBlank c = true)

include hc

theorem skipBlank_cons_blank (cs : List Char) : skipBlank (c :: cs) = skipBlank cs := List.dropWhile_cons_of_pos hc

/-- The blanks in front end before the place, with a character that is none, or go on over it. -/
theorem skipBlank_insert (u v : List Char) :
    skipBlank (u ++ c :: v) = skipBlank (u ++ v) ∨
      ∃ x w, isBlank x = false ∧ x :: w <:+ u ∧ skipBlank (u ++ c :: v) = x :: (w ++ c :: v) ∧
        skipBlank (u ++ v) = x :: (w ++ v) := by
  simp only [skipBlank, List.dropWhile_append]
  cases hu : u.dropWhile isBlank with
  | nil => exact Or.inl (List.dropWhile_cons_of_pos hc)
  | cons x w =>
    have hx := List.head?_dropWhile_not isBlank u
    rw [hu] at hx
    exact Or.inr ⟨x, w, hx, hu ▸ List.dropWhile_suffix isBlank, rfl, rfl⟩

theorem readArguments_insert (hplace : Loose u v) (hu : ∀ d ∈ u, isArgumentChar d = true) :
    readArguments (u ++ c :: v.takeWhile isArgumentChar) = readArguments (u ++ v.takeWhile isArgumentChar) := by
  have hcommas : (∀ m, u.getLast? = some m → m = ',') ∨ ∀ m, (v.takeWhile isArgumentChar).head? = some m → m = ',' := by
    refine hplace.imp (fun hlast m hm => eq_comma_of_isMark (hlast m hm) (hu m (List.mem_of_getLast? hm)))
      fun hhead m hm => ?_
    cases v with
    | nil => cases hm
    | cons d v =>
      rw [List.takeWhile_cons] at hm
      split at hm
      · rename_i hd
        cases hm
        exact eq_comma_of_isMark (hhead _ rfl) hd
      · cases hm
  rw [readArguments, readArguments, Text.trim_splitAt_insert hc (ne_comma_of_isBlank hc) hcommas]

theorem readCall_insert (hplace : Loose (x :: w) v) : readCall (x :: (w ++ c :: v)) = readCall (x :: (w ++ v)) := by
  by_cases hx : x = '('
  case neg =>
    have hno : ∀ cs, readCall (x :: cs) = none := by
      intro cs
      unfold readCall
      split
      · rename_i h
        cases h
      · rename_i h
        exact absurd (List.cons.inj h).1 hx
      · rfl
    rw [hno, hno]
  case pos =>
    subst hx
    simp only [readCall, List.dropWhile_append, List.takeWhile_append]
    cases hw : w.dropWhile isArgumentChar with
    | nil =>
      -- the place is between the brackets
      have hall := List.dropWhile_eq_nil_iff.mp hw
      have htake : w.takeWhile isArgumentChar = w := List.takeWhile_eq_self_iff.mpr hall
      have harguments := readArguments_insert hc (hplace.suffix (List.suffix_cons _ _)) hall
      simp only [htake, List.isEmpty_nil, if_true, List.dropWhile_cons_of_pos (isArgumentChar_of_isBlank hc),
        List.takeWhile_cons_of_pos (isArgumentChar_of_isBlank hc), harguments]
    | cons y t =>
      -- the place is behind them, where there are but blanks
      have hshort : (w.takeWhile isArgumentChar).length ≠ w.length := by
        intro heq
        have hsum := congrArg List.length (List.takeWhile_append_dropWhile (p := isArgumentChar) (l := w))
        rw [hw, List.length_append, heq] at hsum
        simp at hsum
      have hempty : (skipBlank (t ++ c :: v)).isEmpty = (skipBlank (t ++ v)).isEmpty := by
        rcases skipBlank_insert hc t v with heq | ⟨_, _, -, -, hput, hplain⟩
        · rw [heq]
        · rw [hput, hplain]
          rfl
      simp only [if_neg hshort, List.isEmpty_cons, Bool.false_eq_true, if_false, List.cons_append]
      by_cases hy : y = ')'
      · subst hy
        simp only [hempty]
      · split
        · rename_i h
          exact absurd (List.cons.inj h).1 hy
        · split
          · rename_i h
            exact absurd (List.cons.inj h).1 hy
          · rfl

end Insert

/-! ## Expressions -/

def readUnmarked (negated : Bool) (cs : List Char) : Option Expression :=
  if Text.isName (cs.takeWhile isWordChar) then
    (readCall (skipBlank (cs.dropWhile isWordChar))).map fun arguments =>
      ⟨negated, String.ofList (cs.takeWhile isWordChar), arguments⟩
  else none

section Read

variable {text : String} {cs : List Char} {c x : Char} {u v w : List Char}

theorem read?_of_mark (h : skipBlank text.toList = '!' :: cs) :
    Expression.read? text = readUnmarked true (skipBlank cs) := by
  simp only [Expression.read?, h]
  rfl

theorem read?_of_no_mark (h : ∀ cs, skipBlank text.toList ≠ '!' :: cs) :
    Expression.read? text = readUnmarked false (skipBlank text.toList) := by
  simp only [Expression.read?]
  rfl

theorem readUnmarked_insert (hc : isBlank c = true) (hplace : Loose (x :: w) v) (negated : Bool) :
    readUnmarked negated (x :: w ++ c :: v) = readUnmarked negated (x :: w ++ v) := by
  have hword : ¬ isWordChar c = true := by simp [Text.not_isWordChar_of_isBlank hc]
  simp only [readUnmarked, List.takeWhile_append, List.dropWhile_append]
  cases hw : (x :: w).dropWhile isWordChar with
  | nil =>
    -- the name ends with the characters before the place
    have hall := List.dropWhile_eq_nil_iff.mp hw
    have htake : (x :: w).takeWhile isWordChar = x :: w := List.takeWhile_eq_self_iff.mpr hall
    have hv : ∀ m, v.head? = some m → isWordChar m = false := by
      rcases hplace with hlast | hhead
      · have hm : (x :: w).getLast? = some ((x :: w).getLast (List.cons_ne_nil x w)) := List.getLast?_eq_some_getLast _
        have hmark := not_isWordChar_of_isMark (hlast _ hm)
        rw [hall _ (List.getLast_mem _)] at hmark
        cases hmark
      · exact fun m hm => not_isWordChar_of_isMark (hhead m hm)
    have hrest : v.takeWhile isWordChar = [] ∧ v.dropWhile isWordChar = v := by
      cases v with
      | nil => exact ⟨rfl, rfl⟩
      | cons m v =>
        have hm : ¬ isWordChar m = true := by simp [hv m rfl]
        exact ⟨List.takeWhile_cons_of_neg hm, List.dropWhile_cons_of_neg hm⟩
    simp only [htake, if_true, List.isEmpty_nil, List.takeWhile_cons_of_neg hword, List.dropWhile_cons_of_neg hword,
      hrest.1, hrest.2, skipBlank_cons_blank hc]
  | cons y t =>
    have hshort : ((x :: w).takeWhile isWordChar).length ≠ (x :: w).length := by
      intro heq
      have hsum := congrArg List.length (List.takeWhile_append_dropWhile (p := isWordChar) (l := x :: w))
      rw [hw, List.length_append, heq] at hsum
      simp at hsum
    have hsuffix : y :: t <:+ x :: w := hw ▸ List.dropWhile_suffix isWordChar
    have hcall : readCall (skipBlank (y :: t ++ c :: v)) = readCall (skipBlank (y :: t ++ v)) := by
      rcases skipBlank_insert hc (y :: t) v with heq | ⟨_, _, -, hpart, hput, hplain⟩
      · rw [heq]
      · rw [hput, hplain, readCall_insert hc (hplace.suffix (hpart.trans hsuffix))]
    simp only [if_neg hshort, List.isEmpty_cons, Bool.false_eq_true, if_false, hcall]

/-- A blank at a loose place makes no difference to what is read. -/
theorem read?_insert (hc : isBlank c = true) (hplace : Loose u v) :
    Expression.read? (String.ofList (u ++ c :: v)) = Expression.read? (String.ofList (u ++ v)) := by
  rcases skipBlank_insert hc u v with heq | ⟨x, w, -, hpart, hput, hplain⟩
  · simp only [Expression.read?, String.toList_ofList, heq]
  have hw : w <:+ u := (List.suffix_cons x w).trans hpart
  by_cases hx : x = '!'
  · subst hx
    rw [read?_of_mark (by rw [String.toList_ofList, hput]), read?_of_mark (by rw [String.toList_ofList, hplain])]
    rcases skipBlank_insert hc w v with heq | ⟨_, _, -, hpart', hput', hplain'⟩
    · rw [heq]
    · rw [hput', hplain']
      exact readUnmarked_insert hc (hplace.suffix (hpart'.trans hw)) true
  · have hno : ∀ front cs, x :: front ≠ '!' :: cs := fun _ _ h => hx (List.cons.inj h).1
    rw [read?_of_no_mark (by rw [String.toList_ofList, hput]; exact hno _), String.toList_ofList, hput,
      read?_of_no_mark (by rw [String.toList_ofList, hplain]; exact hno _), String.toList_ofList, hplain]
    exact readUnmarked_insert hc (hplace.suffix hpart) false

theorem read?_respaced (h : Respaced cs w) : Expression.read? (String.ofList w) = Expression.read? (String.ofList cs) := by
  induction h with
  | same => rfl
  | put hplace hc _ ih => rw [read?_insert hc hplace, ih]
  | taken hplace hc _ ih => rw [← read?_insert hc hplace, ih]

/-- With a mark in front an expression that has none is read as the same one, negated. -/
theorem read?_negated (h : '!' ∉ text.toList) :
    (∀ e, Expression.read? text = some e → e.negated = false) ∧
      Expression.read? ("!" ++ text) = (Expression.read? text).map fun e => { e with negated := true } := by
  have hno : ∀ cs, skipBlank text.toList ≠ '!' :: cs := by
    intro cs hcs
    refine h ((List.dropWhile_sublist isBlank).subset ?_)
    rw [skipBlank] at hcs
    rw [hcs]
    exact List.mem_cons_self
  have hmark : skipBlank ("!" ++ text).toList = '!' :: text.toList := by
    rw [String.toList_append]
    exact List.dropWhile_cons_of_neg (by decide)
  rw [read?_of_no_mark hno, read?_of_mark hmark]
  unfold readUnmarked
  split
  · refine ⟨fun e he => ?_, by rw [Option.map_map]; rfl⟩
    obtain ⟨arguments, -, rfl⟩ := Option.map_eq_some_iff.mp he
    rfl
  · exact ⟨fun e he => (nomatch he), rfl⟩

end Read

/-! ## Rules -/

/-- The second rule decides the opposite of what the first decides, whenever that decides. -/
def Opposite (rule other : Rule) : Prop :=
  ∀ strict ctx, other.decide strict ctx = (rule.decide strict ctx).map (!·)

inductive Counters : Except Failure Rule → Except Failure Rule → Prop
  | refused (f g : Failure) : Counters (.error f) (.error g)
  | compiled {rule other : Rule} (h : Opposite rule other) : Counters (.ok rule) (.ok other)

section Counters

variable {x y : Except Failure Rule}

theorem Counters.isRule_iff (h : Counters x y) : (∃ other, y = .ok other) ↔ ∃ rule, x = .ok rule := by
  cases h with
  | refused f g => exact ⟨fun ⟨_, hg⟩ => (nomatch hg), fun ⟨_, hf⟩ => (nomatch hf)⟩
  | compiled h => exact ⟨fun _ => ⟨_, rfl⟩, fun _ => ⟨_, rfl⟩⟩

theorem Counters.opposite (h : Counters x y) {rule other : Rule} (hx : x = .ok rule) (hy : y = .ok other) :
    Opposite rule other := by
  cases h with
  | refused f g => cases hx
  | compiled h =>
    cases hx
    cases hy
    exact h

end Counters

def Registry.Decides (registry : Registry) (ctx : Context) : Prop := ∀ f ∈ registry, ∃ b, f.2.holds ctx = .ok b

/-- The built-in predicates decide wherever the ids and owners that they compare have texts. -/
theorem Registry.decides_builtIn {ctx : Context} (h : ∀ u, ¬ ctx.LacksText u) : Registry.builtIn.Decides ctx := by
  intro f hf
  cases hholds : f.2.holds ctx with
  | ok b => exact ⟨b, rfl⟩
  | error e =>
    simp only [Registry.builtIn, List.mem_cons, List.not_mem_nil, or_false] at hf
    rcases hf with rfl | rfl | rfl | rfl
    · rcases owns_error hholds with ⟨id, u, hid, hu, -⟩ | ⟨owner, u, howner, hu, -⟩
      · exact absurd (.user hid hu) (h u)
      · exact absurd (.owner howner hu) (h u)
    · rcases owns_error hholds with ⟨id, u, hid, hu, -⟩ | ⟨owner, u, howner, hu, -⟩
      · exact absurd (.user hid hu) (h u)
      · exact absurd (.newOwner howner hu) (h u)
    · cases hholds
    · cases hholds

theorem Registry.Decides.register {registry registry' : Registry} {ctx : Context} (h : registry.Decides ctx)
    {name : String} {p : Predicate} (hp : ∃ b, p.holds ctx = .ok b)
    (hregister : registry.register name p = .ok registry') : registry'.Decides ctx := by
  unfold Registry.register at hregister
  split at hregister
  · cases hregister
    exact Keyed.forall_put (P := fun p : Predicate => ∃ b, p.holds ctx = .ok b) h hp
  · cases hregister

section Compile

variable {registry : Registry} {text text' : String} {rule : Rule}

/-- Which predicate a call selects, if any, does not depend on the words of the text. -/
theorem selectCall_cases (name : String) (p : Predicate) (arguments : List String) :
    (∃ selected, ∀ text, selectCall text name p arguments = .ok selected) ∨
      ∀ text, ∃ f, selectCall text name p arguments = .error f := by
  by_cases hbuilt : p.builtInName? = some name
  · cases hcall : builtInCall p arguments with
    | some selected => exact Or.inl ⟨selected, fun text => by simp only [selectCall, if_pos hbuilt, hcall]⟩
    | none => exact Or.inr fun text => ⟨.rules (.arguments name text), by simp only [selectCall, if_pos hbuilt, hcall]⟩
  · cases hbindings : arguments.find? fun a => !bindings.contains a with
    | some a => exact Or.inr fun text => ⟨.rules (.binding a text), by simp only [selectCall, if_neg hbuilt, hbindings]⟩
    | none => exact Or.inl ⟨name, fun text => by simp only [selectCall, if_neg hbuilt, hbindings]⟩

/-- What is compiled of a text depends on what is read of it alone, the words of a refusal apart. -/
theorem compileExpression_congr (h : Expression.read? text' = Expression.read? text) :
    (compileExpression registry text').toOption = (compileExpression registry text).toOption := by
  unfold compileExpression
  rw [h]
  cases Expression.read? text with
  | none => rfl
  | some e =>
    dsimp only
    by_cases hliteral : e.name = "true" ∨ e.name = "false"
    · rw [if_pos hliteral, if_pos hliteral]
      split <;> rfl
    rw [if_neg hliteral, if_neg hliteral]
    cases registry.get? e.name with
    | none => rfl
    | some p =>
      cases e.arguments with
      | none => rfl
      | some arguments =>
        dsimp only
        rcases selectCall_cases e.name p arguments with ⟨selected, hselected⟩ | herror
        · rw [hselected, hselected]
        · obtain ⟨f, hf⟩ := herror text
          obtain ⟨f', hf'⟩ := herror text'
          rw [hf, hf']
          rfl

theorem opposite_named (name : String) (p : Predicate) : Opposite (.named name false p) (.named name true p) := by
  intro strict ctx
  show (p.holds ctx).map (fun b => !b) = ((p.holds ctx).map fun b => b).map (!·)
  cases p.holds ctx <;> rfl

/-- Whichever predicate is asked, it is the same one. -/
theorem counters_ofPredicate (registry : Registry) (name : String) :
    Counters (ofPredicate registry false name) (ofPredicate registry true name) := by
  unfold ofPredicate
  split
  · exact .refused _ _
  · by_cases hname : name = "isOwner"
    · rw [if_pos ⟨hname, rfl⟩, if_neg fun h => Bool.false_ne_true h.2]
      exact .compiled fun _ _ => rfl
    · rw [if_neg fun h => hname h.1, if_neg fun h => hname h.1]
      exact .compiled (opposite_named name _)
  · exact .compiled (opposite_named name _)

theorem counters_compile (registry : Registry) (h : '!' ∉ text.toList) :
    Counters (compileExpression registry text) (compileExpression registry ("!" ++ text)) := by
  obtain ⟨hplain, hmarked⟩ := read?_negated h
  unfold compileExpression
  rw [hmarked]
  cases hread : Expression.read? text with
  | none => exact .refused _ _
  | some e =>
    have hnegated := hplain e hread
    rw [Option.map_some]
    dsimp only
    by_cases hliteral : e.name = "true" ∨ e.name = "false"
    · rw [if_pos hliteral, if_pos hliteral]
      by_cases harguments : e.arguments.isSome = true
      · rw [if_pos harguments, if_pos harguments]
        exact .refused _ _
      · rw [if_neg harguments, if_neg harguments, hnegated]
        refine .compiled fun strict ctx => ?_
        cases e.name == "true" <;> rfl
    rw [if_neg hliteral, if_neg hliteral, hnegated]
    cases registry.get? e.name with
    | none => exact .refused _ _
    | some p =>
      cases e.arguments with
      | none => exact counters_ofPredicate registry e.name
      | some arguments =>
        dsimp only
        rcases selectCall_cases e.name p arguments with ⟨selected, hselected⟩ | herror
        · rw [hselected, hselected]
          exact counters_ofPredicate registry selected
        · obtain ⟨f, hf⟩ := herror text
          obtain ⟨f', hf'⟩ := herror ("!" ++ text)
          rw [hf, hf']
          exact .refused _ _

/-- A rule decides where the predicates do. -/
theorem decide_ofPredicate {ctx : Context} (hdecides : registry.Decides ctx) {negated : Bool} {name : String}
    (h : ofPredicate registry negated name = .ok rule) (strict : Bool) : ∃ b, rule.decide strict ctx = .ok b := by
  unfold ofPredicate at h
  split at h
  · cases h
  · rename_i hp
    cases h
    obtain ⟨b, hb⟩ := hdecides _ (Keyed.mem_of_get? hp)
    split
    · exact ⟨b, hb⟩
    · exact ⟨_, by rw [decide, hb]; rfl⟩
  · rename_i hp
    cases h
    obtain ⟨b, hb⟩ := hdecides _ (Keyed.mem_of_get? hp)
    exact ⟨_, by rw [decide, hb]; rfl⟩

theorem decide_compiled {ctx : Context} (hdecides : registry.Decides ctx)
    (h : compileExpression registry text = .ok rule) (strict : Bool) : ∃ b, rule.decide strict ctx = .ok b := by
  unfold compileExpression at h
  split at h
  · cases h
  split at h
  · split at h
    · cases h
    · cases h
      split <;> exact ⟨_, rfl⟩
  split at h
  · cases h
  · exact decide_ofPredicate hdecides h strict
  split at h
  · cases h
  · exact decide_ofPredicate hdecides h strict

end Compile

/-- Whatever predicates are registered: an expression without an exclamation mark is a rule if and only if it is
one with the mark in front. Then the two decide the opposite of each other, strictly and leniently, in every
context in which the predicates decide, and in any other they fail alike or still decide so. And blanks put or taken
at loose places of any text make no difference to whether it is a rule or to which one. -/
theorem negation_is_exact (registry : Registry) :
    (∀ text : String, '!' ∉ text.toList →
      ((∃ negated, compileExpression registry ("!" ++ text) = .ok negated) ↔
        ∃ rule, compileExpression registry text = .ok rule) ∧
      ∀ rule negated, compileExpression registry text = .ok rule →
        compileExpression registry ("!" ++ text) = .ok negated → ∀ strict ctx,
          (registry.Decides ctx → ∃ b, rule.decide strict ctx = .ok b ∧ negated.decide strict ctx = .ok !b) ∧
          negated.decide strict ctx = (rule.decide strict ctx).map (!·)) ∧
    ∀ text text' : String, Respaced text.toList text'.toList → ∀ rule,
      compileExpression registry text' = .ok rule ↔ compileExpression registry text = .ok rule := by
  refine ⟨fun text hmark => ?_, fun text text' hspaced rule => ?_⟩
  · have hboth := counters_compile registry hmark
    refine ⟨hboth.isRule_iff, fun rule negated hrule hnegated strict ctx => ?_⟩
    have hopposite := hboth.opposite hrule hnegated strict ctx
    refine ⟨fun hdecides => ?_, hopposite⟩
    obtain ⟨b, hb⟩ := decide_compiled hdecides hrule strict
    refine ⟨b, hb, ?_⟩
    rw [hopposite, hb]
    rfl
  · have hread := read?_respaced hspaced
    rw [String.ofList_toList, String.ofList_toList] at hread
    rw [← Result.toOption_eq_some, compileExpression_congr hread, Result.toOption_eq_some]

/-! ### Editors -/

def editors : Registry := Registry.builtIn.put "isEditor" (.custom fun ctx => .ok ctx.isAdmin)

theorem editors_register : Registry.builtIn.register "isEditor" (.custom fun ctx => .ok ctx.isAdmin) = .ok editors := rfl

def handingIn : Context := ⟨some [("_id", .text "u1")], [], [(.text "_ownerId", .text "u2")], false, none⟩

theorem handingIn_texts : ∀ u, ¬ handingIn.LacksText u := by
  rintro u (⟨hid, hu⟩ | ⟨howner, -⟩ | ⟨howner, hu⟩)
  · cases hid
    cases hu
  · cases howner
  · cases howner
    cases hu

theorem editors_decide : editors.Decides handingIn :=
  (Registry.decides_builtIn handingIn_texts).register ⟨_, rfl⟩ editors_register

theorem respaced_call : Respaced "!isOwner(user,newData)".toList " ! isOwner(user ,newData)".toList := by
  have hname : Respaced "!isOwner(user,newData)".toList "! isOwner(user,newData)".toList :=
    .put (u := ['!']) (v := "isOwner(user,newData)".toList) (c := ' ') (Or.inl fun m hm => by cases hm; rfl) rfl .same
  have hcomma : Respaced "!isOwner(user,newData)".toList "! isOwner(user ,newData)".toList :=
    .put (u := "! isOwner(user".toList) (v := ",newData)".toList) (c := ' ') (Or.inr fun m hm => by cases hm; rfl) rfl hname
  exact .put (u := []) (c := ' ') (Or.inl fun m hm => by cases hm) rfl hcomma

/-- The owner that a new record names is asked by `isOwner(user,newData)`, and the mark in front, with blanks or without,
lets everybody else pass. -/
theorem negation_is_exact_editors :
    editors.Decides handingIn ∧ '!' ∉ "isOwner(user,newData)".toList ∧
      compileExpression editors "isOwner(user,newData)" = .ok (.named "isNewOwner" false .isNewOwner) ∧
      compileExpression editors "!isOwner(user,newData)" = .ok (.named "isNewOwner" true .isNewOwner) ∧
      (∀ strict, ∃ b, Rule.decide (.named "isNewOwner" false .isNewOwner) strict handingIn = .ok b ∧
        Rule.decide (.named "isNewOwner" true .isNewOwner) strict handingIn = .ok !b) ∧
      compileExpression editors " ! isOwner(user ,newData)" = .ok (.named "isNewOwner" true .isNewOwner) := by
  have hlaws := negation_is_exact editors
  have hplain : '!' ∉ "isOwner(user,newData)".toList := by decide
  have hrule : compileExpression editors "isOwner(user,newData)" = .ok (.named "isNewOwner" false .isNewOwner) := by rfl
  have hnegated : compileExpression editors "!isOwner(user,newData)" = .ok (.named "isNewOwner" true .isNewOwner) := by rfl
  exact ⟨editors_decide, hplain, hrule, hnegated,
    fun strict => ((hlaws.1 _ hplain).2 _ _ hrule hnegated strict handingIn).1 editors_decide,
    (hlaws.2 _ _ respaced_call _).mpr hnegated⟩

end Rule

end DocumentStore
