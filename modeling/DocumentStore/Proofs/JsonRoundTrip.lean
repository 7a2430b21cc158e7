/-
  DocumentStore.Proofs.JsonRoundTrip — a value is read back from the JSON that writes it.

  Only printed characters are written (`printed_writeChars`). What is read is the value with the halves in its
  texts joined, its numbers as their digits are read, and of members whose names join to one the last (`reread`).

  A value is read up to where it ends if there is room for all that stands in it, and is too much otherwise
  (`ReadsTo`). Each step of the readers keeps that, so it holds by recursion over the value
  (`readsTo_writeChars`): the items and the members after the first are read once what is in front of them is. So
  how deep a value is nested decides whether it is read back (`read_write_iff`).
-/

import DocumentStore.Proofs.JsonNumbers
import DocumentStore.Proofs.JsonText
import DocumentStore.Proofs.SortOrder
import DocumentStore.Value.Shown

namespace DocumentStore

open Decimal Text

namespace Value

mutual

def depth : Value → Nat
  | .list items => depthItems items + 1
  | .object members => depthMembers members + 1
  | _ => 0

def depthItems : List Value → Nat
  | [] => 0
  | v :: vs => max (depth v) (depthItems vs)

def depthMembers : List (String × Value) → Nat
  | [] => 0
  | (_, v) :: ms => max (depth v) (depthMembers ms)

end

/-- The number that the digits of a number are read as. -/
def rereadFloat (x : Binary64) : Binary64 :=
  match Json.readPlain (Json.writeFloat x) with
  | .ok (.float y, _) => y
  | _ => x

mutual

/-- The value that the JSON of a value is read as. -/
def reread : Value → Value
  | .float x => .float (rereadFloat x)
  | .text s => .text (joined s)
  | .list items => .list (rereadItems items)
  | .object members => .object (Keyed.ofList (rereadMembers members))
  | v => v

def rereadItems : List Value → List Value
  | [] => []
  | v :: vs => reread v :: rereadItems vs

def rereadMembers : List (String × Value) → List (String × Value)
  | [] => []
  | (n, v) :: ms => (joined n, reread v) :: rereadMembers ms

end

end Value

namespace Json

/-! ## Only printed characters -/

section Printed

theorem printed_escapeUnit (n : Nat) : ∀ c ∈ escapeUnit n, IsPrinted c := by
  have hdigits : ∀ k < 16, IsPrinted (hexDigit k) := by decide
  refine printed_cons (by decide) (printed_cons (by decide) fun c hc => ?_)
  obtain ⟨k, hk, rfl⟩ := mem_hex hc
  exact hdigits k hk

theorem printed_escapeChar (c : Char) : ∀ d ∈ escapeChar c, IsPrinted d := by
  unfold escapeChar
  split
  · rename_i hself
    rcases hself with rfl | rfl <;> exact printed_of_all rfl
  iterate 5
    split
    · exact printed_of_all rfl
  split
  · rename_i hprinted
    exact List.forall_mem_singleton.mpr hprinted
  dsimp only
  split
  · exact printed_escapeUnit _
  · exact printed_append (printed_escapeUnit _) (printed_escapeUnit _)

theorem printed_writeText (s : String) : ∀ c ∈ writeText s, IsPrinted c := by
  refine printed_cons (by decide) (printed_append (fun d hd => ?_) (printed_of_all rfl))
  obtain ⟨c, -, hc⟩ := List.mem_flatMap.mp hd
  exact printed_escapeChar c d hc

mutual

theorem printed_writeChars : (v : Value) → ∀ c ∈ writeChars v, IsPrinted c
  | .null => printed_of_all rfl
  | .bool true => printed_of_all rfl
  | .bool false => printed_of_all rfl
  | .int n => printed_intChars n
  | .float x => printed_writeFloat x
  | .text s => printed_writeText s
  | .list [] => printed_of_all rfl
  | .list (v :: vs) => by
    rw [writeChars]
    exact printed_cons (by decide) (printed_append (printed_writeChars v) (printed_writeItems vs))
  | .object [] => printed_of_all rfl
  | .object ((n, v) :: ms) => by
    rw [writeChars]
    exact printed_cons (by decide) (printed_append (printed_append (printed_append (printed_writeText n) (printed_of_all rfl))
      (printed_writeChars v)) (printed_writeMembers ms))

theorem printed_writeItems : (vs : List Value) → ∀ c ∈ writeItems vs, IsPrinted c
  | [] => printed_of_all rfl
  | v :: vs => by
    rw [writeItems]
    exact printed_cons (by decide) (printed_cons (by decide) (printed_append (printed_writeChars v) (printed_writeItems vs)))

theorem printed_writeMembers : (ms : List (String × Value)) → ∀ c ∈ writeMembers ms, IsPrinted c
  | [] => printed_of_all rfl
  | (n, v) :: ms => by
    rw [writeMembers]
    exact printed_cons (by decide) (printed_cons (by decide) (printed_append (printed_append (printed_append
      (printed_writeText n) (printed_of_all rfl)) (printed_writeChars v)) (printed_writeMembers ms)))

end

def IsPrintedText (s : String) : Prop := ∀ c ∈ s.toList, IsPrinted c

theorem printedText_append {s t : String} (hs : IsPrintedText s) (ht : IsPrintedText t) : IsPrintedText (s ++ t) := by
  rw [IsPrintedText, String.toList_append]
  exact printed_append hs ht

theorem printedText_ofList {cs : List Char} (h : ∀ c ∈ cs, IsPrinted c) : IsPrintedText (String.ofList cs) := by
  rwa [IsPrintedText, String.toList_ofList]

/-- Printed characters are no halves. -/
theorem joined_of_printed {s : String} (h : IsPrintedText s) : joined s = s := by
  have hcode (c : Char) (hc : c ∈ s.toList) : ¬ isHighSurrogate (codeOf c) = true := by
    have hsmall : c.toNat ≤ 126 := (h c hc).2
    have hlone : ¬ isLone c = true := by
      rw [isLone_iff]
      omega
    rw [codeOf, if_neg hlone, isHighSurrogate_iff]
    omega
  rw [joined_eq_self_iff, NoPairs, List.isChain_iff_getElem]
  intro i hi hpair
  exact hcode _ (List.getElem_mem _) hpair.1

/-- What is printed has no line feed. -/
theorem splitAt_printed {cs : List Char} (h : ∀ c ∈ cs, IsPrinted c) : Text.splitAt '\n' cs = [cs] := by
  induction cs with
  | nil => rfl
  | cons c cs ih =>
    obtain ⟨hc, hcs⟩ := List.forall_mem_cons.mp h
    have hne : c ≠ '\n' := by
      rintro rfl
      exact absurd hc (by decide)
    rw [Text.splitAt, if_neg hne, ih hcs]

end Printed

/-! ## Steps of a reader -/

/-- What fits is read, up to the rest; of what does not, there is too much. -/
structure ReadsTo {α : Type} (r : Reading α) (fits : Prop) (a : α) (rest : List Char) : Prop where
  read : fits → r = .ok (a, rest)
  excess : ¬ fits → ∃ nest, r = .error (.excess (.depth nest))

section Steps

variable {α β : Type} {r : Reading α} {fits more : Prop} {a : α} {room steps : Nat} {cs rest tail : List Char}
  {v : Value}

theorem ReadsTo.map (h : ReadsTo r fits a rest) (f : α → β) :
    ReadsTo (r.map fun (a, left) => (f a, left)) fits (f a) rest where
  read hfits := by
    rw [h.read hfits]
    rfl
  excess hfits := by
    obtain ⟨nest, hr⟩ := h.excess hfits
    exact ⟨nest, by rw [hr]; rfl⟩

theorem ReadsTo.congr (h : ReadsTo r fits a rest) (hiff : fits ↔ more) : ReadsTo r more a rest where
  read hmore := h.read (hiff.mpr hmore)
  excess hmore := h.excess fun hfits => hmore (hiff.mp hfits)

theorem ReadsTo.not_malformed (h : ReadsTo r fits a rest) (flaw : Flaw) (left : Nat) :
    r ≠ .error (.malformed flaw left) := fun hr => by
  by_cases hfits : fits
  · rw [h.read hfits] at hr
    cases hr
  · obtain ⟨nest, hexcess⟩ := h.excess hfits
    rw [hexcess] at hr
    cases hr

theorem readsTo_of_ok (h : r = .ok (a, rest)) (hfits : fits) : ReadsTo r fits a rest :=
  ⟨fun _ => h, fun hnot => absurd hfits hnot⟩

/-- A word or a number begins with no quote and no bracket. -/
theorem readValue_of_readPlain (h : readPlain cs = .ok (v, rest)) : readValue room (steps + 1) cs = .ok (v, rest) := by
  unfold readValue
  split
  case h_4 => exact h
  all_goals cases h

/-- A value begins with no blank and no closing bracket. -/
theorem ReadsTo.start (h : ReadsTo (readValue room steps cs) fits v rest) :
    skipSpace cs = cs ∧ ∀ tail, cs ≠ ']' :: tail := by
  cases steps with
  | zero => exact absurd rfl (h.not_malformed _ _)
  | succ steps =>
    have hfails (c : Char) (hc : isSpace c = true ∨ c = ']') (tail : List Char) : cs ≠ c :: tail := by
      rintro rfl
      have hc : c = ' ' ∨ c = '\t' ∨ c = '\n' ∨ c = '\r' ∨ c = ']' := by simpa [isSpace, or_assoc] using hc
      rcases hc with rfl | rfl | rfl | rfl | rfl <;> exact h.not_malformed _ _ rfl
    refine ⟨?_, hfails ']' (Or.inr rfl)⟩
    cases cs with
    | nil => rfl
    | cons c tail => exact List.dropWhile_cons_of_neg fun hc => hfails c (Or.inl hc) tail rfl

/-- A blank in front of a value is skipped. -/
theorem ReadsTo.skipSpace_blank (h : ReadsTo (readValue room steps cs) fits v rest) : skipSpace (' ' :: cs) = cs :=
  h.start.1

theorem skipSpace_writeText (n : String) (cs : List Char) :
    skipSpace (' ' :: (writeText n ++ cs)) = writeText n ++ cs := by
  rw [writeText_append]
  rfl

/-! ### Items -/

theorem readsTo_items_last (h : ReadsTo (readValue room steps cs) fits v (']' :: rest)) :
    ReadsTo (readItems room (steps + 1) cs) fits [v] rest where
  read hfits := readItems_last (h.read hfits)
  excess hfits := by
    obtain ⟨nest, hfirst⟩ := h.excess hfits
    exact ⟨nest, by rw [readItems, hfirst]⟩

theorem readsTo_items_comma {vs : List Value} (h : ReadsTo (readValue room steps cs) fits v (',' :: tail))
    (hmore : ReadsTo (readItems room steps (skipSpace tail)) more vs rest) :
    ReadsTo (readItems room (steps + 1) cs) (fits ∧ more) (v :: vs) rest := by
  by_cases hfits : fits
  · rw [readItems_comma (h.read hfits)]
    exact (hmore.map (v :: ·)).congr (and_iff_right hfits).symm
  · obtain ⟨nest, hfirst⟩ := h.excess hfits
    exact ⟨fun hboth => absurd hboth.1 hfits, fun _ => ⟨nest, by rw [readItems, hfirst]⟩⟩

/-- A list is read by its items, if it has any. -/
theorem readsTo_list {items : List Value} (hfirst : ReadsTo (readValue room steps cs) fits v tail)
    (h : ReadsTo (readItems room (steps + 1) cs) more items rest) :
    ReadsTo (readValue (room + 1) (steps + 2) ('[' :: cs)) more (.list items) rest := by
  obtain ⟨hskip, hopen⟩ := hfirst.start
  rw [readValue, hskip]
  dsimp only
  split
  · exact absurd rfl (hopen _)
  · exact h.map Value.list

/-! ### Members -/

/-- The name of a member and its colon are read before its value. -/
theorem readsTo_members_last (h : ReadsTo (readValue room steps cs) fits v ('\x7d' :: rest)) (n : String) :
    ReadsTo (readMembers room (steps + 1) (writeText n ++ ':' :: ' ' :: cs)) fits [(joined n, v)] rest := by
  have hcolon : skipSpace (':' :: ' ' :: cs) = ':' :: ' ' :: cs := rfl
  rw [writeText_append, readMembers, readText_written]
  simp only [hcolon, h.skipSpace_blank]
  constructor
  · intro hfits
    rw [h.read hfits]
    rfl
  · intro hfits
    obtain ⟨nest, hvalue⟩ := h.excess hfits
    exact ⟨nest, by rw [hvalue]⟩

/-- The same with more members behind the value. -/
theorem readsTo_members_comma {ms : List (String × Value)} (h : ReadsTo (readValue room steps cs) fits v (',' :: tail))
    (hmore : ReadsTo (readMembers room steps (skipSpace tail)) more ms rest) (n : String) :
    ReadsTo (readMembers room (steps + 1) (writeText n ++ ':' :: ' ' :: cs)) (fits ∧ more) ((joined n, v) :: ms) rest := by
  have hcolon : skipSpace (':' :: ' ' :: cs) = ':' :: ' ' :: cs := rfl
  rw [writeText_append, readMembers, readText_written]
  simp only [hcolon, h.skipSpace_blank]
  by_cases hfits : fits
  · rw [h.read hfits]
    exact (hmore.map ((joined n, v) :: ·)).congr (and_iff_right hfits).symm
  · obtain ⟨nest, hvalue⟩ := h.excess hfits
    exact ⟨fun hboth => absurd hboth.1 hfits, fun _ => ⟨nest, by rw [hvalue]⟩⟩

/-- An object is read by its members, if it has any. -/
theorem readsTo_object {n : String} {ms : List (String × Value)}
    (h : ReadsTo (readMembers room steps (writeText n ++ cs)) fits ms rest) :
    ReadsTo (readValue (room + 1) (steps + 1) ('\x7b' :: (writeText n ++ cs))) fits (.object (Keyed.ofList ms)) rest := by
  rw [writeText_append] at h ⊢
  exact h.map fun ms => Value.object (Keyed.ofList ms)

end Steps

/-! ## Reading values -/

section Values

theorem readPlain_float {rest : List Char} (hrest : Ends rest) (x : Binary64) :
    readPlain (writeFloat x ++ rest) = .ok (.float (Value.rereadFloat x), rest) := by
  obtain ⟨y, hread⟩ := readPlain_writeFloat x
  have hself := hread [] fun c hc => by cases hc
  rw [List.append_nil] at hself
  rw [hread rest hrest, Value.rereadFloat, hself]

theorem ends_writeItems (vs : List Value) (rest : List Char) : Ends (writeItems vs ++ rest) := by
  cases vs with
  | nil => exact fun c hc => Or.inr (Or.inl (Option.some.inj hc).symm)
  | cons v vs =>
    rw [writeItems]
    exact fun c hc => Or.inl (Option.some.inj hc).symm

theorem ends_writeMembers (ms : List (String × Value)) (rest : List Char) : Ends (writeMembers ms ++ rest) := by
  cases ms with
  | nil => exact fun c hc => Or.inr (Or.inr (Option.some.inj hc).symm)
  | cons m ms =>
    obtain ⟨n, v⟩ := m
    rw [writeMembers]
    exact fun c hc => Or.inl (Option.some.inj hc).symm

theorem writeChars_ne_nil (v : Value) : writeChars v ≠ [] := by
  cases v with
  | null => exact List.cons_ne_nil _ _
  | bool b => cases b <;> exact List.cons_ne_nil _ _
  | int n => exact intChars_ne_nil n
  | float x => exact fun hnil => x.text_ne_empty (String.toList_eq_nil_iff.mp hnil)
  | text s => exact List.cons_ne_nil _ _
  | list items => cases items <;> exact List.cons_ne_nil _ _
  | object members => cases members <;> exact List.cons_ne_nil _ _

theorem isSpellable_int (n : Int) : (Value.int n).isSpellable = !isLong n := by
  rw [Value.isSpellable, Draft.ofValue, Draft.isSpellable]

theorem isSpellable_list (v : Value) (vs : List Value) :
    (Value.list (v :: vs)).isSpellable = true ↔
      v.isSpellable = true ∧ Draft.areSpellable (Draft.ofItems vs) = true := Bool.and_eq_true_iff

theorem isSpellable_object (n : String) (v : Value) (ms : List (String × Value)) :
    (Value.object ((n, v) :: ms)).isSpellable = true ↔
      v.isSpellable = true ∧ Draft.areMembersSpellable (Draft.ofMembers ms) = true := Bool.and_eq_true_iff

mutual

theorem readsTo_writeChars (v : Value) (room steps : Nat) (rest : List Char)
    (hsteps : 2 * (writeChars v).length ≤ steps) (hshort : v.isSpellable = true) (hrest : Ends rest) :
    ReadsTo (readValue room steps (writeChars v ++ rest)) (v.depth ≤ room) v.reread rest := by
  have hpos := List.length_pos_iff.mpr (writeChars_ne_nil v)
  obtain ⟨k, rfl⟩ := Nat.exists_eq_add_of_le' (show 2 ≤ steps by omega)
  cases v with
  | null => exact readsTo_of_ok rfl (Nat.zero_le room)
  | bool b => cases b <;> exact readsTo_of_ok rfl (Nat.zero_le room)
  | int n =>
    have hn : isLong n = false := by rwa [isSpellable_int, Bool.not_eq_true'] at hshort
    exact readsTo_of_ok (readValue_of_readPlain (readPlain_intChars hn hrest)) (Nat.zero_le room)
  | float x => exact readsTo_of_ok (readValue_of_readPlain (readPlain_float hrest x)) (Nat.zero_le room)
  | text s => exact readsTo_of_ok (readValue_writeText room (k + 1) s rest) (Nat.zero_le room)
  | list items =>
    cases room with
    | zero => cases items <;> exact ⟨fun hfits => absurd hfits (Nat.not_succ_le_zero _), fun _ => ⟨.list, rfl⟩⟩
    | succ room =>
      cases items with
      | nil => exact readsTo_of_ok rfl (Nat.succ_le_succ (Nat.zero_le room))
      | cons v vs =>
        obtain ⟨hv, hvs⟩ := (isSpellable_list v vs).mp hshort
        rw [writeChars, List.length_append, List.length_cons] at hsteps
        rw [writeChars, List.cons_append, List.cons_append, List.append_assoc]
        have hfirst := readsTo_writeChars v room k _ (by omega) hv (ends_writeItems vs rest)
        have hitems := readsTo_writeItems vs room k _ rest hfirst (by omega) hvs
        refine (readsTo_list hfirst hitems).congr ?_
        rw [Value.depth, Value.depthItems]
        omega
  | object members =>
    cases room with
    | zero =>
      rcases members with _ | ⟨⟨n, v⟩, ms⟩ <;>
        exact ⟨fun hfits => absurd hfits (Nat.not_succ_le_zero _), fun _ => ⟨.object, rfl⟩⟩
    | succ room =>
      cases members with
      | nil => exact readsTo_of_ok rfl (Nat.succ_le_succ (Nat.zero_le room))
      | cons m ms =>
        obtain ⟨n, v⟩ := m
        obtain ⟨hv, hms⟩ := (isSpellable_object n v ms).mp hshort
        have hlayout : writeChars (.object ((n, v) :: ms)) ++ rest =
            '\x7b' :: (writeText n ++ ':' :: ' ' :: (writeChars v ++ (writeMembers ms ++ rest))) := by
          simp [writeChars]
        rw [writeChars] at hsteps
        simp only [List.length_append, List.length_cons] at hsteps
        rw [hlayout]
        have hfirst := readsTo_writeChars v room k _ (by omega) hv (ends_writeMembers ms rest)
        have hmembers := readsTo_writeMembers ms room k _ rest n hfirst (by omega) hms
        refine (readsTo_object hmembers).congr ?_
        rw [Value.depth, Value.depthMembers]
        omega
termination_by structural v

/-- The items behind one. -/
theorem readsTo_writeItems (vs : List Value) {v : Value} {fits : Prop} (room steps : Nat) (cs rest : List Char)
    (hfirst : ReadsTo (readValue room steps cs) fits v (writeItems vs ++ rest))
    (hsteps : 2 * (writeItems vs).length ≤ steps) (hshort : Draft.areSpellable (Draft.ofItems vs) = true) :
    ReadsTo (readItems room (steps + 1) cs) (fits ∧ Value.depthItems vs ≤ room) (v :: Value.rereadItems vs) rest := by
  cases vs with
  | nil => exact (readsTo_items_last hfirst).congr (and_iff_left (Nat.zero_le room)).symm
  | cons w vs =>
    obtain ⟨hw, hvs⟩ := (isSpellable_list w vs).mp hshort
    have hlayout : writeItems (w :: vs) ++ rest = ',' :: ' ' :: (writeChars w ++ (writeItems vs ++ rest)) := by
      simp [writeItems]
    rw [writeItems] at hsteps
    simp only [List.length_append, List.length_cons] at hsteps
    obtain ⟨k, rfl⟩ := Nat.exists_eq_add_of_le' (show 1 ≤ steps by omega)
    rw [hlayout] at hfirst
    have hnext := readsTo_writeChars w room k _ (by omega) hw (ends_writeItems vs rest)
    have hitems := readsTo_writeItems vs room k _ rest hnext (by omega) hvs
    rw [← hnext.skipSpace_blank] at hitems
    refine (readsTo_items_comma hfirst hitems).congr (and_congr_right' ?_)
    rw [Value.depthItems]
    omega
termination_by structural vs

/-- The members behind a value, which has a name of its own. -/
theorem readsTo_writeMembers (ms : List (String × Value)) {v : Value} {fits : Prop} (room steps : Nat)
    (cs rest : List Char) (n : String)
    (hfirst : ReadsTo (readValue room steps cs) fits v (writeMembers ms ++ rest))
    (hsteps : 2 * (writeMembers ms).length ≤ steps)
    (hshort : Draft.areMembersSpellable (Draft.ofMembers ms) = true) :
    ReadsTo (readMembers room (steps + 1) (writeText n ++ ':' :: ' ' :: cs))
      (fits ∧ Value.depthMembers ms ≤ room) ((joined n, v) :: Value.rereadMembers ms) rest := by
  cases ms with
  | nil => exact (readsTo_members_last hfirst n).congr (and_iff_left (Nat.zero_le room)).symm
  | cons m ms =>
    obtain ⟨m, w⟩ := m
    obtain ⟨hw, hms⟩ := (isSpellable_object m w ms).mp hshort
    have hlayout : writeMembers ((m, w) :: ms) ++ rest =
        ',' :: ' ' :: (writeText m ++ ':' :: ' ' :: (writeChars w ++ (writeMembers ms ++ rest))) := by
      simp [writeMembers]
    rw [writeMembers] at hsteps
    simp only [List.length_append, List.length_cons] at hsteps
    obtain ⟨k, rfl⟩ := Nat.exists_eq_add_of_le' (show 1 ≤ steps by omega)
    rw [hlayout] at hfirst
    have hnext := readsTo_writeChars w room k _ (by omega) hw (ends_writeMembers ms rest)
    have hmembers := readsTo_writeMembers ms room k _ rest m hnext (by omega) hms
    rw [← skipSpace_writeText] at hmembers
    refine (readsTo_members_comma hfirst hmembers n).congr (and_congr_right' ?_)
    rw [Value.depthMembers]
    omega
termination_by structural ms

end

/-! ### Values as a whole -/

theorem rereadMembers_eq_map (ms : List (String × Value)) :
    Value.rereadMembers ms = ms.map fun m => (joined m.1, m.2.reread) := by
  induction ms with
  | nil => rfl
  | cons m ms ih =>
    rw [Value.rereadMembers, ih]
    rfl

theorem depthMembers_le_iff {ms : List (String × Value)} {n : Nat} :
    Value.depthMembers ms ≤ n ↔ ∀ m ∈ ms, m.2.depth ≤ n := by
  induction ms with
  | nil => simp [Value.depthMembers]
  | cons m ms ih => rw [Value.depthMembers, Nat.max_le, ih, List.forall_mem_cons]

theorem isSpellable_object_iff {ms : List (String × Value)} :
    (Value.object ms).isSpellable = true ↔ ∀ m ∈ ms, m.2.isSpellable = true := by
  induction ms with
  | nil => exact ⟨fun _ m hm => absurd hm List.not_mem_nil, fun _ => rfl⟩
  | cons m ms ih =>
    rw [isSpellable_object m.1, List.forall_mem_cons, ← ih]
    rfl

/-- There is room for both of two depths exactly if there is for the greater one. -/
theorem or_deep (m n room : Nat) :
    (if m ≤ room then none else some Unwritable.deep).or (if n ≤ room then none else some .deep) =
      if max m n ≤ room then none else some .deep := by
  by_cases hm : m ≤ room
  · rw [if_pos hm, Option.none_or]
    exact if_congr ⟨fun hn => Nat.max_le.mpr ⟨hm, hn⟩, fun h => (Nat.max_le.mp h).2⟩ rfl rfl
  · rw [if_neg hm, if_neg fun h => hm (Nat.max_le.mp h).1, Option.some_or]

mutual

/-- But for long numbers, a value cannot be written only if it is nested too deep. -/
theorem unwritable?_of_isSpellable (v : Value) (room : Nat) (h : v.isSpellable = true) :
    (Draft.ofValue v).unwritable? room = if v.depth ≤ room then none else some .deep := by
  cases v with
  | null => rfl
  | bool b => rfl
  | int n =>
    rw [isSpellable_int, Bool.not_eq_true'] at h
    rw [Draft.ofValue, Draft.unwritable?, h]
    rfl
  | float x => rfl
  | text s => rfl
  | list items =>
    rw [Draft.ofValue, Draft.unwritable?, Value.depth]
    cases room with
    | zero => rfl
    | succ room => exact (unwritableItem?_of_isSpellable items room h).trans (if_congr Nat.succ_le_succ_iff.symm rfl rfl)
  | object members =>
    rw [Draft.ofValue, Draft.unwritable?, Value.depth]
    cases room with
    | zero => rfl
    | succ room =>
      exact (unwritableMember?_of_isSpellable members room h).trans (if_congr Nat.succ_le_succ_iff.symm rfl rfl)

theorem unwritableItem?_of_isSpellable (vs : List Value) (room : Nat) (h : Draft.areSpellable (Draft.ofItems vs) = true) :
    Draft.unwritableItem? room (Draft.ofItems vs) = if Value.depthItems vs ≤ room then none else some .deep := by
  match vs with
  | [] => rfl
  | v :: vs =>
    obtain ⟨hv, hvs⟩ := Bool.and_eq_true_iff.mp h
    rw [Draft.ofItems, Draft.unwritableItem?, unwritable?_of_isSpellable v room hv,
      unwritableItem?_of_isSpellable vs room hvs, Value.depthItems, or_deep]

theorem unwritableMember?_of_isSpellable (ms : List (String × Value)) (room : Nat)
    (h : Draft.areMembersSpellable (Draft.ofMembers ms) = true) :
    Draft.unwritableMember? room (Draft.ofMembers ms) =
      if Value.depthMembers ms ≤ room then none else some .deep := by
  match ms with
  | [] => rfl
  | (n, v) :: ms =>
    obtain ⟨hv, hms⟩ := (isSpellable_object n v ms).mp h
    have hkey : (Key.text n).unwritable? room = none := by simp only [Key.unwritable?]
    rw [Draft.ofMembers, Draft.unwritableMember?, hkey, Option.none_or, unwritable?_of_isSpellable v room hv,
      unwritableMember?_of_isSpellable ms room hms, Value.depthMembers, or_deep]

end

/-- The writer has room for just what the reader has room for. -/
theorem writeOut_of_isSpellable {v : Value} (h : v.isSpellable = true) :
    writeOut v = if v.depth ≤ maxNesting then .ok (write v) else .error (.nesting .json) := by
  rw [writeOut, Value.unwritable?, unwritable?_of_isSpellable v maxNesting h]
  by_cases hdepth : v.depth ≤ maxNesting
  · rw [if_pos hdepth, if_pos hdepth]
  · rw [if_neg hdepth, if_neg hdepth]
    rfl

/-- A value is read back exactly if it is not nested too deep. -/
theorem read_write_iff {v w : Value} (hshort : v.isSpellable = true) :
    read (write v) = .ok w ↔ v.depth ≤ maxNesting ∧ w = v.reread := by
  have hmark : (writeChars v).head? ≠ some byteOrderMark := fun hhead =>
    absurd (printed_writeChars v _ (List.mem_of_head? hhead)) (by decide)
  have hvalue := readsTo_writeChars v maxNesting (2 * (writeChars v).length + 1) [] (Nat.le_succ _) hshort
    fun c hc => by cases hc
  rw [List.append_nil] at hvalue
  rw [read, write, String.toList_ofList, readChars, if_neg hmark, hvalue.start.1]
  by_cases hdepth : v.depth ≤ maxNesting
  · rw [hvalue.read hdepth]
    exact ⟨fun h => ⟨hdepth, (Except.ok.inj h).symm⟩, fun h => congrArg Except.ok h.2.symm⟩
  · obtain ⟨nest, hexcess⟩ := hvalue.excess hdepth
    rw [hexcess]
    constructor
    · intro h
      cases h
    · intro h
      exact absurd h.1 hdepth

end Values

end Json

end DocumentStore
