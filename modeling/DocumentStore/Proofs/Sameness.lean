/-
  DocumentStore.Proofs.Sameness — when values are the same, and the same in an exact look-up.

  Two values are the same in one of five ways (`same_iff`). Sameness is transitive (`same_trans`), and
  symmetric on values whose objects name no member twice (`same_symm`): members are looked up in one
  object by the names in the other, so those of the other are counted. In an exact look-up two texts
  are the same letter case aside; that sameness is symmetric and transitive as well
  (`lookupSame_symm`, `lookupSame_trans`). It is not reflexive, as not-a-number is not the same as
  itself, unless it stands in a list or an object.
-/

import DocumentStore.Proofs.Named
import DocumentStore.Proofs.Result
import DocumentStore.Store.Basic
import Mathlib.Data.List.Perm.Subperm

namespace DocumentStore

/-! ## Numbers -/

namespace Decimal

theorem Rank.compare_eq_iff {a b : Rank} : a.compare b = .eq ↔ a = b := by
  cases a <;> cases b <;> simp [Rank.compare]

theorem Number.sameValue_iff {m n : Number} :
    m.sameValue n = true ↔ ∃ r, m.rank? = some r ∧ n.rank? = some r := by
  rw [sameValue, compare?]
  cases m.rank? with
  | none => simp
  | some x =>
    cases n.rank? with
    | none => simp
    | some y =>
      dsimp only
      rw [beq_iff_eq, Option.some.injEq, Rank.compare_eq_iff]
      exact ⟨fun h => ⟨x, rfl, by rw [h]⟩, fun ⟨r, hx, hy⟩ => Option.some.inj (hx.trans hy.symm)⟩

end Decimal

namespace Value

open DocumentStore.Decimal

/-! ## Ways to be the same -/

/-- How two values can be the same. -/
inductive Alike : Value → Value → Prop
  | null : Alike .null .null
  | text (s : String) : Alike (.text s) (.text s)
  | list {xs ys : List Value} (h : List.Forall₂ (fun x y => sameInside x y = true) xs ys) : Alike (.list xs) (.list ys)
  | object {xs ys : Record} (hlength : xs.length = ys.length)
      (h : ∀ f ∈ xs, ∃ y, ys.get? f.1 = some y ∧ sameInside f.2 y = true) : Alike (.object xs) (.object ys)
  | number {a b : Value} {m n : Number} {r : Rank} (ha : a.quantity? = some m) (hb : b.quantity? = some n)
      (hm : m.rank? = some r) (hn : n.rank? = some r) : Alike a b

theorem areNan_iff {a b : Value} : areNan a b = true ↔ a = .float .nan ∧ b = .float .nan := by
  unfold areNan
  split
  · simp
  · rename_i hne
    simp only [Bool.false_eq_true, false_iff]
    rintro ⟨rfl, rfl⟩
    exact hne rfl rfl

theorem sameInside_iff {a b : Value} :
    a.sameInside b = true ↔ (a = .float .nan ∧ b = .float .nan) ∨ a.same b = true := by
  rw [sameInside, Bool.or_eq_true, areNan_iff]

theorem sameItems_iff {xs ys : List Value} :
    sameItems xs ys = true ↔ List.Forall₂ (fun x y => sameInside x y = true) xs ys := by
  induction xs generalizing ys with
  | nil => cases ys <;> simp [sameItems]
  | cons x xs ih => cases ys <;> simp [sameItems, sameInside, ih]

theorem sameMembers_iff {xs ys : Record} :
    sameMembers xs ys = true ↔ ∀ f ∈ xs, ∃ y, ys.get? f.1 = some y ∧ sameInside f.2 y = true := by
  induction xs with
  | nil => simp [sameMembers]
  | cons f xs ih =>
    obtain ⟨n, x⟩ := f
    rw [sameMembers, Bool.and_eq_true, ih, List.forall_mem_cons]
    cases ys.get? n <;> simp [sameInside]

theorem same_of_quantity {a b : Value} {m n : Number} (ha : a.quantity? = some m) (hb : b.quantity? = some n) :
    same a b = m.sameValue n := by
  cases a <;> cases b <;> simp_all [same, quantity?, number?]

theorem same_iff {a b : Value} : a.same b = true ↔ Alike a b := by
  constructor
  · intro h
    unfold same at h
    split at h
    · exact .null
    · rw [eq_of_beq h]
      exact .text _
    · exact .list (sameItems_iff.mp h)
    · rw [Bool.and_eq_true, beq_iff_eq] at h
      exact .object h.1 (sameMembers_iff.mp h.2)
    · split at h
      · rename_i ha hb
        obtain ⟨r, hm, hn⟩ := Number.sameValue_iff.mp h
        exact .number ha hb hm hn
      · cases h
  · intro h
    cases h with
    | null => rfl
    | text s => exact beq_self_eq_true s
    | list h => exact sameItems_iff.mpr h
    | object hlength h =>
      rw [same, Bool.and_eq_true, beq_iff_eq]
      exact ⟨hlength, sameMembers_iff.mpr h⟩
    | number ha hb hm hn =>
      rw [same_of_quantity ha hb]
      exact Number.sameValue_iff.mpr ⟨_, hm, hn⟩

/-- Not-a-number is the same as no value. -/
theorem not_same_nan {v : Value} : ¬ same (.float .nan) v = true ∧ ¬ v.same (.float .nan) = true := by
  constructor
  · intro h
    cases same_iff.mp h with
    | number ha _ hm _ =>
      cases ha
      cases hm
  · intro h
    cases same_iff.mp h with
    | number _ hb _ hn =>
      cases hb
      cases hn

/-! ## Symmetry -/

theorem sameInside_symm {a b : Value} (hsymm : a.same b = true → b.same a = true) (h : a.sameInside b = true) :
    b.sameInside a = true :=
  sameInside_iff.mpr ((sameInside_iff.mp h).imp And.symm hsymm)

mutual

/-- Whether no object names two members alike, in the value or anywhere within it. -/
def namesDistinct : Value → Bool
  | .list items => itemsDistinct items
  | .object members => decide (Keyed.names members).Nodup && membersDistinct members
  | _ => true

def itemsDistinct : List Value → Bool
  | [] => true
  | v :: vs => namesDistinct v && itemsDistinct vs

def membersDistinct : List (String × Value) → Bool
  | [] => true
  | (_, v) :: ms => namesDistinct v && membersDistinct ms

end

theorem itemsDistinct_iff {vs : List Value} : itemsDistinct vs = true ↔ ∀ v ∈ vs, v.namesDistinct = true := by
  induction vs with
  | nil => simp [itemsDistinct]
  | cons v vs ih => rw [itemsDistinct, Bool.and_eq_true, ih, List.forall_mem_cons]

theorem membersDistinct_iff {ms : Record} : membersDistinct ms = true ↔ ∀ m ∈ ms, m.2.namesDistinct = true := by
  induction ms with
  | nil => simp [membersDistinct]
  | cons m ms ih => rw [membersDistinct, Bool.and_eq_true, ih, List.forall_mem_cons]

theorem namesDistinct_object {ms : Record} :
    namesDistinct (.object ms) = true ↔ ms.names.Nodup ∧ ∀ m ∈ ms, m.2.namesDistinct = true := by
  rw [namesDistinct, Bool.and_eq_true, decide_eq_true_eq, membersDistinct_iff]

/-- Of objects with as many members, if the one has all names of the other, so has the other those
of the one. -/
theorem mem_names_of_length {xs ys : Record} (hxs : xs.names.Nodup) (hlength : xs.length = ys.length)
    (hsub : xs.names ⊆ ys.names) {name : String} (h : name ∈ ys.names) : name ∈ xs.names := by
  have hnames : ys.names.length = xs.names.length := by
    rw [Keyed.names, Keyed.names, List.length_map, List.length_map, hlength]
  exact ((List.subperm_of_subset hxs hsub).perm_of_length_le (Nat.le_of_eq hnames)).mem_iff.mpr h

theorem sizeOf_lt_list {v : Value} {vs : List Value} (h : v ∈ vs) : sizeOf v < sizeOf (Value.list vs) := by
  have hlt := List.sizeOf_lt_of_mem h
  rw [list.sizeOf_spec]
  omega

theorem sizeOf_lt_object {m : String × Value} {ms : Record} (h : m ∈ ms) : sizeOf m.2 < sizeOf (Value.object ms) := by
  have hlt := List.sizeOf_lt_of_mem h
  obtain ⟨n, v⟩ := m
  rw [Prod.mk.sizeOf_spec] at hlt
  rw [object.sizeOf_spec]
  dsimp only
  omega

theorem same_symm {a b : Value} (ha : a.namesDistinct = true) (hb : b.namesDistinct = true) (h : a.same b = true) :
    b.same a = true := by
  refine same_iff.mpr ?_
  cases same_iff.mp h with
  | null => exact .null
  | text s => exact .text s
  | number hqa hqb hm hn => exact .number hqb hqa hn hm
  | @list xs ys hitems =>
    rw [namesDistinct, itemsDistinct_iff] at ha hb
    refine .list (List.Forall₂.flip (List.forall₂_iff_zip.mpr ⟨hitems.length_eq, fun {x y} hz => ?_⟩))
    obtain ⟨hx, hy⟩ := List.of_mem_zip hz
    have := sizeOf_lt_list hx
    exact sameInside_symm (same_symm (ha x hx) (hb y hy)) (List.forall₂_zip hitems hz)
  | @object xs ys hlength hmembers =>
    obtain ⟨hxs, hxmem⟩ := namesDistinct_object.mp ha
    obtain ⟨hys, hymem⟩ := namesDistinct_object.mp hb
    refine .object hlength.symm fun g hg => ?_
    have hsub : xs.names ⊆ ys.names := fun name hname => by
      obtain ⟨f, hf, rfl⟩ := List.mem_map.mp hname
      obtain ⟨y, hy, -⟩ := hmembers f hf
      exact List.mem_map.mpr ⟨_, Keyed.mem_of_get? hy, rfl⟩
    obtain ⟨f, hf, hname⟩ := List.mem_map.mp (mem_names_of_length hxs hlength hsub (List.mem_map_of_mem hg))
    obtain ⟨y, hy, hsame⟩ := hmembers f hf
    have hthere := Keyed.get?_of_mem hys hg
    rw [← hname, hy] at hthere
    cases hthere
    have hhere := Keyed.get?_of_mem hxs hf
    rw [hname] at hhere
    have := sizeOf_lt_object hf
    exact ⟨f.2, hhere, sameInside_symm (same_symm (hxmem f hf) (hymem g hg)) hsame⟩
termination_by sizeOf a

/-! ## Transitivity -/

theorem sameInside_trans {a b c : Value} (htrans : a.same b = true → b.same c = true → a.same c = true)
    (hab : a.sameInside b = true) (hbc : b.sameInside c = true) : a.sameInside c = true := by
  rcases sameInside_iff.mp hab with ⟨rfl, rfl⟩ | hab
  · rcases sameInside_iff.mp hbc with ⟨-, rfl⟩ | hbc
    · rfl
    · exact absurd hbc not_same_nan.1
  · rcases sameInside_iff.mp hbc with ⟨rfl, -⟩ | hbc
    · exact absurd hab not_same_nan.2
    · exact sameInside_iff.mpr (Or.inr (htrans hab hbc))

theorem same_trans {a b c : Value} (hab : a.same b = true) (hbc : b.same c = true) : a.same c = true := by
  refine same_iff.mpr ?_
  cases same_iff.mp hab with
  | null => exact same_iff.mp hbc
  | text s => exact same_iff.mp hbc
  | number hqa hqb hm hn =>
    cases same_iff.mp hbc with
    | number hqb' hqc hm' hn' =>
      cases hqb.symm.trans hqb'
      cases hn.symm.trans hm'
      exact .number hqa hqc hm hn'
    | _ => cases hqb
  | @list xs ys hxy =>
    cases same_iff.mp hbc with
    | number hqb _ _ _ => cases hqb
    | @list _ zs hyz =>
      have hthrough := Result.forall₂_comp_iff.mpr ⟨ys, hxy, hyz⟩
      refine .list (List.forall₂_iff_zip.mpr ⟨hthrough.length_eq, fun {x z} hz => ?_⟩)
      obtain ⟨y, hsame, hsame'⟩ := List.forall₂_zip hthrough hz
      have := sizeOf_lt_list (List.of_mem_zip hz).1
      exact sameInside_trans same_trans hsame hsame'
  | @object xs ys hxy hmembers =>
    cases same_iff.mp hbc with
    | number hqb _ _ _ => cases hqb
    | @object _ zs hyz hmembers' =>
      refine .object (hxy.trans hyz) fun f hf => ?_
      obtain ⟨y, hy, hsame⟩ := hmembers f hf
      obtain ⟨z, hz, hsame'⟩ := hmembers' _ (Keyed.mem_of_get? hy)
      have := sizeOf_lt_object hf
      exact ⟨z, hz, sameInside_trans same_trans hsame hsame'⟩
termination_by sizeOf a

/-- A value that is the same as a text is that text. -/
theorem eq_text_of_same {a : Value} {s : String} (h : a.same (.text s) = true) : a = .text s := by
  cases same_iff.mp h with
  | text => rfl
  | number _ hb _ _ => cases hb

end Value

/-! ## Exact look-ups -/

namespace Collections

open Value (same_symm same_trans eq_text_of_same)

/-- In a look-up two texts are the same letter case aside, and other values if they are the same. -/
theorem lookupSame_iff {a b : Value} :
    lookupSame a b = true ↔
      (∃ s t, a = .text s ∧ b = .text t ∧ Text.foldChars s.toList = Text.foldChars t.toList) ∨
        (∀ s, a ≠ .text s) ∧ a.same b = true := by
  unfold lookupSame
  split
  · rename_i s t
    rw [beq_iff_eq]
    exact ⟨fun h => Or.inl ⟨s, t, rfl, rfl, h⟩, by
      rintro (⟨_, _, ⟨⟩, ⟨⟩, h⟩ | ⟨hno, -⟩)
      · exact h
      · exact absurd rfl (hno s)⟩
  · rename_i hno
    constructor
    · intro h
      refine Or.inr ⟨?_, h⟩
      rintro s rfl
      cases Value.same_iff.mp h with
      | text => exact hno s s rfl rfl
      | number ha => cases ha
    · rintro (⟨s, t, rfl, rfl, -⟩ | ⟨-, h⟩)
      · exact absurd rfl (hno s t rfl)
      · exact h

theorem lookupSame_symm {a b : Value} (ha : a.namesDistinct = true) (hb : b.namesDistinct = true)
    (h : lookupSame a b = true) : lookupSame b a = true := by
  rcases lookupSame_iff.mp h with ⟨s, t, rfl, rfl, hfold⟩ | ⟨hno, hsame⟩
  · exact lookupSame_iff.mpr (Or.inl ⟨t, s, rfl, rfl, hfold.symm⟩)
  · refine lookupSame_iff.mpr (Or.inr ⟨?_, same_symm ha hb hsame⟩)
    rintro s rfl
    exact hno s (eq_text_of_same hsame)

theorem lookupSame_trans {a b c : Value} (hab : lookupSame a b = true) (hbc : lookupSame b c = true) :
    lookupSame a c = true := by
  rcases lookupSame_iff.mp hab with ⟨s, t, rfl, rfl, hfold⟩ | ⟨hno, hsame⟩
  · rcases lookupSame_iff.mp hbc with ⟨_, u, ⟨⟩, rfl, hfold'⟩ | ⟨hno, -⟩
    · exact lookupSame_iff.mpr (Or.inl ⟨s, u, rfl, rfl, hfold.trans hfold'⟩)
    · exact absurd rfl (hno t)
  · rcases lookupSame_iff.mp hbc with ⟨t, u, rfl, rfl, -⟩ | ⟨-, hsame'⟩
    · exact absurd (eq_text_of_same hsame) (hno t)
    · exact lookupSame_iff.mpr (Or.inr ⟨hno, same_trans hsame hsame'⟩)

end Collections

end DocumentStore
