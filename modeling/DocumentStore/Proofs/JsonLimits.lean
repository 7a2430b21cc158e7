/-
  DocumentStore.Proofs.JsonLimits — how long a text is that is too much for the JSON reader.

  The reader stops at a number of too many digits, and at a list or object that stands inside too many others.
  Each digit of the one and each opening bracket around the other is a character of the text, so the text is
  longer than one of the two limits then (`long_of_excess`).

  What is left behind a value is not longer than what it was read from. With that the bound is carried from each
  value to the list or object around it, which has one bracket more and room for one more (`Bounded`).
-/

import DocumentStore.Json.Read
import Mathlib.Data.List.Basic

namespace DocumentStore.Json

open DocumentStore.Decimal

/-- The reading leaves no more than it was given, and stops for too much only if it was given more characters than
there is room for lists and objects, or than a number may have digits. -/
def Bounded {α : Type} (room : Nat) (cs : List Char) : Reading α → Prop
  | .ok (_, rest) => rest.length ≤ cs.length
  | .error (.excess _) => room < cs.length ∨ maxDigits < cs.length
  | .error (.malformed _ _) => True

section Bounded

variable {α β : Type} {room : Nat} {cs ds rest : List Char} {r : Reading α}

theorem Bounded.map (h : Bounded room cs r) {f : α × List Char → β × List Char} (hf : ∀ p, (f p).2 = p.2) :
    Bounded room cs (r.map f) := by
  cases r with
  | ok p =>
    show (f p).2.length ≤ cs.length
    rw [hf p]
    exact h
  | error e => cases e <;> exact h

/-- The bound holds for any text that is as long. -/
theorem Bounded.of_le (h : Bounded room ds r) (hlength : ds.length ≤ cs.length) : Bounded room cs r := by
  match r, h with
  | .ok (_, _), h => exact Nat.le_trans h hlength
  | .error (.excess _), h =>
    exact h.imp (Nat.lt_of_lt_of_le · hlength) (Nat.lt_of_lt_of_le · hlength)
  | .error (.malformed _ _), _ => trivial

/-- Around the text, with a bracket more, there is room for one more. -/
theorem Bounded.around (h : Bounded room ds r) (hlength : ds.length < cs.length) : Bounded (room + 1) cs r := by
  match r, h with
  | .ok (_, _), h => exact Nat.le_trans h (Nat.le_of_lt hlength)
  | .error (.excess _), h =>
    exact h.imp (fun hroom => Nat.lt_of_le_of_lt hroom hlength) (Nat.lt_trans · hlength)
  | .error (.malformed _ _), _ => trivial

theorem Bounded.left {a : α} (h : Bounded room cs r) (hr : r = .ok (a, rest)) : rest.length ≤ cs.length := by
  rw [hr] at h
  exact h

/-- A fault of what is read first is the fault of the whole. -/
theorem Bounded.fault {e : Fault} (h : Bounded room ds r) (hr : r = .error e) (hlength : ds.length ≤ cs.length) :
    Bounded room cs (.error e : Reading β) := by
  rw [hr] at h
  cases e with
  | malformed flaw left => trivial
  | excess what => exact h.of_le hlength

theorem length_skipSpace_le (cs : List Char) : (skipSpace cs).length ≤ cs.length :=
  (List.dropWhile_sublist isSpace).length_le

theorem length_lt_of_skipSpace {c : Char} (h : skipSpace cs = c :: rest) : rest.length < cs.length := by
  have hskip := length_skipSpace_le cs
  rw [h] at hskip
  exact hskip

end Bounded

/-! ## Texts and numbers -/

section Plain

variable {cs rest : List Char}

theorem bounded_readTextFrom (room : Nat) (high : Option Nat) (cs : List Char) :
    Bounded room cs (readTextFrom high cs) := by
  fun_induction readTextFrom high cs
  case case9 => exact Nat.le_succ _
  case case6 ih =>
    refine ih.of_le ?_
    simp only [List.length_cons]
    omega
  case case3 ih | case4 ih | case5 ih | case7 ih | case12 ih | case15 ih =>
    refine (ih.of_le ?_).map fun _ => rfl
    simp only [List.length_cons]
    omega
  all_goals exact trivial

theorem bounded_readText (room : Nat) (cs : List Char) : Bounded room cs (readText cs) := by
  have h := bounded_readTextFrom room none cs
  unfold readText
  split
  · trivial
  · exact h

theorem length_takePlainDigits (cs : List Char) :
    (takePlainDigits cs).1.length + (takePlainDigits cs).2.length = cs.length := by
  rw [takePlainDigits, List.length_map, ← List.length_append, List.takeWhile_append_dropWhile]

theorem length_takeSign_le (cs : List Char) : (takeSign cs).2.length ≤ cs.length := by
  unfold takeSign
  split <;> simp

theorem length_takeFraction_le {digits : List Nat} (h : takeFraction cs = some (digits, rest)) :
    rest.length ≤ cs.length := by
  unfold takeFraction at h
  split at h
  · rename_i ds
    have hsum := length_takePlainDigits ds
    split at h
    · cases h
    · have hdigits : takePlainDigits ds = (digits, rest) := Option.some.inj h
      rw [hdigits] at hsum
      rw [List.length_cons]
      simp only at hsum
      omega
  · cases h

theorem length_takeExponent_le {e : Int} (h : takeExponent cs = some (e, rest)) : rest.length ≤ cs.length := by
  unfold takeExponent at h
  split at h
  · rename_i c ds
    have hsign := length_takeSign_le ds
    have hsum := length_takePlainDigits (takeSign ds).2
    split at h
    · simp only at h
      split at h
      · cases h
      · rename_i hdigits
        cases h
        rw [hdigits] at hsum
        rw [List.length_cons]
        simp only at hsum
        omega
    · cases h
  · cases h

/-- A number is made of its first digits, one at least where a zero comes first, and what is behind them. -/
theorem length_whole {whole : List Nat}
    (h : (match cs with
      | '0' :: rest => ([0], rest)
      | cs => takePlainDigits cs) = (whole, rest)) : whole.length + rest.length = cs.length := by
  split at h
  · cases h
    exact Nat.add_comm _ _
  · rw [← length_takePlainDigits cs, h]

theorem length_behindFraction_le (cs : List Char) :
    (match takeFraction cs with | some (_, r) => r | none => cs).length ≤ cs.length := by
  split
  · rename_i hfraction
    exact length_takeFraction_le hfraction
  · exact Nat.le_refl _

theorem length_behindExponent_le (cs : List Char) :
    (match takeExponent cs with | some (_, r) => r | none => cs).length ≤ cs.length := by
  split
  · rename_i hexponent
    exact length_takeExponent_le hexponent
  · exact Nat.le_refl _

theorem bounded_readNumber (room : Nat) (negative : Bool) (cs : List Char) :
    Bounded room cs (readNumber negative cs) := by
  fun_cases readNumber negative cs
  case case1 => trivial
  case case2 whole rest hwhole _ _ _ _ _ _ hlong =>
    have hsum := length_whole hwhole
    exact Or.inr (by omega)
  case case3 whole rest hwhole _ _ behind _ left _ _ _ _ | case4 whole rest hwhole _ _ behind _ left _ _ _ =>
    have hsum := length_whole hwhole
    have hbehind : behind.length ≤ rest.length := length_behindFraction_le rest
    have hleft : left.length ≤ behind.length := length_behindExponent_le behind
    exact Nat.le_trans hleft (Nat.le_trans hbehind (by omega))

theorem bounded_readPlain (room : Nat) (cs : List Char) : Bounded room cs (readPlain cs) := by
  unfold readPlain
  split
  case h_7 => exact (bounded_readNumber room true _).of_le (Nat.le_succ _)
  case h_8 => exact bounded_readNumber room false cs
  all_goals
    show List.length _ ≤ List.length _
    simp only [List.length_cons]
    omega

end Plain

/-! ## Values -/

section Values

variable {steps : Nat} {cs : List Char}

theorem bounded_readValue_succ (hitems : ∀ room cs, Bounded room cs (readItems room steps cs))
    (hmembers : ∀ room cs, Bounded room cs (readMembers room steps cs)) (room : Nat) (cs : List Char) :
    Bounded room cs (readValue room (steps + 1) cs) := by
  unfold readValue
  split
  · rename_i ds
    exact ((bounded_readText room ds).of_le (Nat.le_succ _)).map fun _ => rfl
  · rename_i ds
    split
    · exact Or.inl (Nat.succ_pos _)
    split
    · rename_i hclosed
      exact Nat.le_of_lt (Nat.lt_succ_of_lt (length_lt_of_skipSpace hclosed))
    · exact ((hitems _ _).around (Nat.lt_succ_of_le (length_skipSpace_le ds))).map fun _ => rfl
  · rename_i ds
    split
    · exact Or.inl (Nat.succ_pos _)
    split
    · rename_i hclosed
      exact Nat.le_of_lt (Nat.lt_succ_of_lt (length_lt_of_skipSpace hclosed))
    · exact ((hmembers _ _).around (Nat.lt_succ_of_le (length_skipSpace_le ds))).map fun _ => rfl
  · exact bounded_readPlain room _

theorem bounded_readItems_succ (hvalue : ∀ room cs, Bounded room cs (readValue room steps cs))
    (hitems : ∀ room cs, Bounded room cs (readItems room steps cs)) (room : Nat) (cs : List Char) :
    Bounded room cs (readItems room (steps + 1) cs) := by
  unfold readItems
  split
  · rename_i hread
    exact (hvalue room cs).fault hread (Nat.le_refl _)
  rename_i rest hread
  have hrest := (hvalue room cs).left hread
  split
  · rename_i hclosed
    exact Nat.le_trans (Nat.le_of_lt (length_lt_of_skipSpace hclosed)) hrest
  · rename_i hcomma
    have hlength := length_lt_of_skipSpace hcomma
    refine ((hitems room _).of_le ?_).map fun _ => rfl
    exact Nat.le_trans (length_skipSpace_le _) (by omega)
  · trivial

theorem bounded_readMembers_succ (hvalue : ∀ room cs, Bounded room cs (readValue room steps cs))
    (hmembers : ∀ room cs, Bounded room cs (readMembers room steps cs)) (room : Nat) (cs : List Char) :
    Bounded room cs (readMembers room (steps + 1) cs) := by
  unfold readMembers
  split
  case h_2 => trivial
  rename_i ds
  split
  · rename_i hname
    exact (bounded_readText room ds).fault hname (Nat.le_succ _)
  rename_i name behind hname
  have hbehind := (bounded_readText room ds).left hname
  split
  case h_2 => trivial
  rename_i tail hcolon
  have htail := length_lt_of_skipSpace hcolon
  have hskip := length_skipSpace_le tail
  split
  · rename_i hread
    refine (hvalue room _).fault hread ?_
    rw [List.length_cons]
    omega
  rename_i rest hread
  have hrest := (hvalue room _).left hread
  dsimp only
  split
  · rename_i hclosed
    have hleft := length_lt_of_skipSpace hclosed
    exact Nat.le_trans (Nat.le_of_lt hleft) (by rw [List.length_cons]; omega)
  · rename_i left hcomma
    have hleft := length_lt_of_skipSpace hcomma
    have hnext := length_skipSpace_le left
    refine ((hmembers room _).of_le ?_).map fun _ => rfl
    rw [List.length_cons]
    omega
  · trivial

theorem bounded_read (steps : Nat) :
    (∀ room cs, Bounded room cs (readValue room steps cs)) ∧
    (∀ room cs, Bounded room cs (readItems room steps cs)) ∧
    ∀ room cs, Bounded room cs (readMembers room steps cs) := by
  induction steps with
  | zero => exact ⟨fun _ _ => trivial, fun _ _ => trivial, fun _ _ => trivial⟩
  | succ steps ih =>
    obtain ⟨hvalue, hitems, hmembers⟩ := ih
    exact ⟨bounded_readValue_succ hitems hmembers, bounded_readItems_succ hvalue hitems,
      bounded_readMembers_succ hvalue hmembers⟩

/-- What is too much for the reader has more characters than lists and objects may be nested, which are fewer than
the digits of a number may be. -/
theorem long_of_excess {what : Excess} (h : readChars cs = .error (.excess what)) : maxNesting < cs.length := by
  unfold readChars at h
  split at h
  · cases h
  split at h
  · rename_i hread
    cases h
    have hbound := ((bounded_read (2 * cs.length + 1)).1 maxNesting (skipSpace cs)).of_le (length_skipSpace_le cs)
    rw [hread] at hbound
    rcases hbound with hroom | hdigits
    · exact hroom
    · exact Nat.lt_trans (by decide) hdigits
  · split at h <;> cases h

end Values

end DocumentStore.Json
