/-
  DocumentStore.Proofs.Membership — which values are among the items of a list.

  Two JSON values are equal if wherever one of them has a value inside, be it the whole or an item or member
  at some depth, the other one has a value there that matches it: of the same kind, and the same number, text or
  truth value (`JsonEqual`).

  A clause with `in` compares the whole values so. What they hold is compared more loosely: there a truth value is
  also the number it counts as, and not-a-number is itself (`Confused`). So it accepts a record for an item that
  is equal to the record's value but for such places, and the item is equal to the value exactly if there
  is no such place (`among_accepts_iff`).
-/

import DocumentStore.Proofs.Sameness
import DocumentStore.Query.Clause

namespace DocumentStore

namespace Value

open DocumentStore.Decimal

/-! ## Places in a value -/

inductive Step where
  | item (i : Nat)
  | member (name : String)

def stepTo : Value → Step → Option Value
  | .list items, .item i => items[i]?
  | .object members, .member name => Keyed.get? members name
  | _, _ => none

/-- What stands at the end of a path in the value, if the path leads anywhere. -/
def at? (v : Value) : List Step → Option Value
  | [] => some v
  | step :: path => (v.stepTo step).bind (at? · path)

/-- The values are of one kind and, if they hold no others, the same. -/
inductive Matches : Value → Value → Prop
  | null : Matches .null .null
  | bool (b : Bool) : Matches (.bool b) (.bool b)
  | number {a b : Value} {m n : Number} {r : Rank} (ha : a.number? = some m) (hb : b.number? = some n)
      (hm : m.rank? = some r) (hn : n.rank? = some r) : Matches a b
  | text (s : String) : Matches (.text s) (.text s)
  | list (xs ys : List Value) : Matches (.list xs) (.list ys)
  | object (xs ys : Record) : Matches (.object xs) (.object ys)

/-- The values are equal as JSON: at every place there is nothing in both, or what matches. -/
def JsonEqual (a b : Value) : Prop := ∀ path, Option.Rel Matches (a.at? path) (b.at? path)

/-- The values do not match, but are the same inside lists and objects: one of them is a truth value and the other
the number it counts as, or both are not-a-number. -/
inductive Confused : Value → Value → Prop
  | counted {a b : Value} {m n : Number} {r : Rank} (hkind : a.isBool ≠ b.isBool) (ha : a.quantity? = some m)
      (hb : b.quantity? = some n) (hm : m.rank? = some r) (hn : n.rank? = some r) : Confused a b
  | nan : Confused (.float .nan) (.float .nan)

def AgreeAlong (a b : Value) (path : List Step) : Prop :=
  Option.Rel (fun x y => Matches x y ∨ Confused x y) (a.at? path) (b.at? path)

def EqualButInside (a b : Value) : Prop := Matches a b ∧ ∀ step path, AgreeAlong a b (step :: path)

section Places

variable {a b v x : Value} {step : Step}

theorem namesDistinct_stepTo (hv : v.namesDistinct = true) (h : v.stepTo step = some x) : x.namesDistinct = true := by
  unfold stepTo at h
  split at h
  · rw [namesDistinct, itemsDistinct_iff] at hv
    exact hv x (List.mem_of_getElem? h)
  · exact (namesDistinct_object.mp hv).2 _ (Keyed.mem_of_get? h)
  · cases h

theorem sizeOf_stepTo_lt (h : v.stepTo step = some x) : sizeOf x < sizeOf v := by
  unfold stepTo at h
  split at h
  · exact sizeOf_lt_list (List.mem_of_getElem? h)
  · exact sizeOf_lt_object (Keyed.mem_of_get? h)
  · cases h

theorem forall₂_iff_getElem? {α β : Type} {R : α → β → Prop} {xs : List α} {ys : List β} :
    List.Forall₂ R xs ys ↔ ∀ i : Nat, Option.Rel R xs[i]? ys[i]? := by
  induction xs generalizing ys with
  | nil =>
    cases ys with
    | nil => simp
    | cons y ys => simpa using ⟨0, by simp⟩
  | cons x xs ih =>
    cases ys with
    | nil => simpa using ⟨0, by simp⟩
    | cons y ys =>
      rw [List.forall₂_cons, ih]
      constructor
      · rintro ⟨hxy, hrest⟩ (_ | i)
        · simpa using hxy
        · simpa using hrest i
      · intro h
        exact ⟨by simpa using h 0, fun i => by simpa using h (i + 1)⟩

def SameSteps (a b : Value) : Prop :=
  ∀ step, Option.Rel (fun x y => sameInside x y = true) (a.stepTo step) (b.stepTo step)

theorem sameSteps_list {xs ys : List Value} :
    SameSteps (.list xs) (.list ys) ↔ List.Forall₂ (fun x y => sameInside x y = true) xs ys := by
  rw [forall₂_iff_getElem?]
  constructor
  · exact fun h i => h (.item i)
  · rintro h (i | name)
    · exact h i
    · exact .none

theorem sameSteps_object {xs ys : Record} (hxs : xs.names.Nodup) (hys : ys.names.Nodup) :
    SameSteps (.object xs) (.object ys) ↔
      xs.length = ys.length ∧ ∀ f ∈ xs, ∃ y, ys.get? f.1 = some y ∧ sameInside f.2 y = true := by
  constructor
  · intro h
    have hmember : ∀ name, Option.Rel (fun x y => sameInside x y = true) (xs.get? name) (ys.get? name) :=
      fun name => h (.member name)
    have hnames : ∀ name, name ∈ xs.names ↔ name ∈ ys.names := by
      intro name
      rw [← not_iff_not, ← Keyed.get?_eq_none_iff, ← Keyed.get?_eq_none_iff]
      have hrel := hmember name
      cases hx : xs.get? name <;> cases hy : ys.get? name <;> simp_all
    have hperm : xs.names.Perm ys.names := (List.perm_ext_iff_of_nodup hxs hys).mpr hnames
    refine ⟨by simpa [Keyed.names] using hperm.length_eq, fun f hf => ?_⟩
    have hrel := hmember f.1
    rw [Keyed.get?_of_mem hxs hf] at hrel
    cases hy : ys.get? f.1 with
    | none => simp [hy] at hrel
    | some y => exact ⟨y, rfl, by simpa [hy] using hrel⟩
  · rintro ⟨hlength, hmembers⟩ (i | name)
    · exact .none
    · have hsub : xs.names ⊆ ys.names := fun n hn => by
        obtain ⟨f, hf, rfl⟩ := List.mem_map.mp hn
        obtain ⟨y, hy, -⟩ := hmembers f hf
        exact List.mem_map.mpr ⟨_, Keyed.mem_of_get? hy, rfl⟩
      show Option.Rel _ (xs.get? name) (ys.get? name)
      cases hx : xs.get? name with
      | some x =>
        obtain ⟨y, hy, hsame⟩ := hmembers _ (Keyed.mem_of_get? hx)
        rw [hy]
        exact .some hsame
      | none =>
        have hnot : name ∉ ys.names := fun hn =>
          Keyed.get?_eq_none_iff.mp hx (mem_names_of_length hxs hlength hsub hn)
        rw [Keyed.get?_eq_none_iff.mpr hnot]
        exact .none

theorem sameSteps_of_quantity {m n : Number} (ha : a.quantity? = some m) (hb : b.quantity? = some n) :
    SameSteps a b := by
  intro step
  have ha' : a.stepTo step = none := by cases a <;> first | rfl | cases ha
  have hb' : b.stepTo step = none := by cases b <;> first | rfl | cases hb
  rw [ha', hb']
  exact .none

/-! ## Sameness, step for step -/

theorem Matches.isBool_eq (h : Matches a b) : a.isBool = b.isBool := by
  cases h with
  | number ha hb =>
    have hplain : ∀ {v : Value} {n : Number}, v.number? = some n → v.isBool = false := by
      intro v n hn
      cases v <;> first | rfl | cases hn
    rw [hplain ha, hplain hb]
  | _ => rfl

theorem quantity?_of_number? {n : Number} (h : v.number? = some n) : v.quantity? = some n := by
  cases v <;> first | exact h | cases h

theorem number?_of_quantity? {n : Number} (hv : v.isBool = false) (h : v.quantity? = some n) : v.number? = some n := by
  cases v <;> first | exact h | cases hv

theorem exists_bool (h : v.isBool = true) : ∃ b, v = .bool b := by
  cases v <;> first | exact ⟨_, rfl⟩ | cases h

/-- No two values match and are confused. -/
theorem Confused.not_matches (h : Confused a b) : ¬ Matches a b := by
  intro hm
  cases h with
  | counted hkind => exact hkind hm.isBool_eq
  | nan =>
    cases hm with
    | number ha _ hr _ =>
      cases ha
      cases hr

theorem twoTo_pos (n : Nat) : 0 < twoTo n := Nat.two_pow_pos n

theorem eq_of_rank? {m n : Int} {r : Rank} (hm : (Number.int m).rank? = some r) (hn : (Number.int n).rank? = some r) :
    m = n := by
  have hscale : (twoTo 1074 : Int) ≠ 0 := Int.natCast_ne_zero.mpr (Nat.ne_of_gt (twoTo_pos 1074))
  have hplaces := hm.trans hn.symm
  rw [Number.rank?, Number.rank?, Option.some.injEq, Rank.at_.injEq] at hplaces
  exact Int.eq_of_mul_eq_mul_right hscale hplaces

/-- The same values match or are confused. -/
theorem matches_or_confused (h : a.same b = true) : Matches a b ∨ Confused a b := by
  cases same_iff.mp h with
  | null => exact Or.inl .null
  | text s => exact Or.inl (.text s)
  | list _ => exact Or.inl (.list _ _)
  | object _ _ => exact Or.inl (.object _ _)
  | number ha hb hm hn =>
    by_cases hkind : a.isBool = b.isBool
    · refine Or.inl ?_
      cases hbool : a.isBool with
      | false => exact .number (number?_of_quantity? hbool ha) (number?_of_quantity? (hkind ▸ hbool) hb) hm hn
      | true =>
        obtain ⟨p, rfl⟩ := exists_bool hbool
        obtain ⟨q, rfl⟩ := exists_bool (hkind ▸ hbool)
        cases ha
        cases hb
        have hcount := eq_of_rank? hm hn
        have hpq : p = q := by cases p <;> cases q <;> simp at hcount ⊢
        exact hpq ▸ .bool p
    · exact Or.inr (.counted hkind ha hb hm hn)

/-- Values that match are the same exactly if what they hold is. -/
theorem Matches.same_iff_steps (h : Matches a b) (ha : a.namesDistinct = true) (hb : b.namesDistinct = true) :
    a.same b = true ↔ SameSteps a b := by
  cases h with
  | null => exact iff_of_true rfl fun step => by cases step <;> exact .none
  | text s => exact iff_of_true (beq_self_eq_true s) fun step => by cases step <;> exact .none
  | bool b =>
    refine iff_of_true ?_ (sameSteps_of_quantity rfl rfl)
    exact same_iff.mpr (.number rfl rfl rfl rfl)
  | number hm hn hr hr' =>
    have hm := quantity?_of_number? hm
    have hn := quantity?_of_number? hn
    exact iff_of_true (same_iff.mpr (.number hm hn hr hr')) (sameSteps_of_quantity hm hn)
  | list xs ys => rw [sameSteps_list, same, sameItems_iff]
  | object xs ys =>
    rw [sameSteps_object (namesDistinct_object.mp ha).1 (namesDistinct_object.mp hb).1, same, Bool.and_eq_true,
      beq_iff_eq, sameMembers_iff]

/-- Confused values hold no others. -/
theorem Confused.spec (h : Confused a b) : a.sameInside b = true ∧ SameSteps a b := by
  cases h with
  | counted _ ha hb hm hn =>
    exact ⟨sameInside_iff.mpr (Or.inr (same_iff.mpr (.number ha hb hm hn))), sameSteps_of_quantity ha hb⟩
  | nan => exact ⟨rfl, sameSteps_of_quantity rfl rfl⟩

theorem sameInside_iff_steps (ha : a.namesDistinct = true) (hb : b.namesDistinct = true) :
    a.sameInside b = true ↔ (Matches a b ∨ Confused a b) ∧ SameSteps a b := by
  constructor
  · intro h
    rcases sameInside_iff.mp h with ⟨rfl, rfl⟩ | hsame
    · exact ⟨Or.inr .nan, Confused.nan.spec.2⟩
    · rcases matches_or_confused hsame with hm | hc
      · exact ⟨Or.inl hm, (hm.same_iff_steps ha hb).mp hsame⟩
      · exact ⟨Or.inr hc, hc.spec.2⟩
  · rintro ⟨hm | hc, hsteps⟩
    · exact sameInside_iff.mpr (Or.inr ((hm.same_iff_steps ha hb).mpr hsteps))
    · exact hc.spec.1

theorem strictlySame_iff_steps (ha : a.namesDistinct = true) (hb : b.namesDistinct = true) :
    a.strictlySame b = true ↔ Matches a b ∧ SameSteps a b := by
  rw [strictlySame, Bool.and_eq_true, beq_iff_eq]
  constructor
  · rintro ⟨hkind, hsame⟩
    rcases matches_or_confused hsame with hm | hc
    · exact ⟨hm, (hm.same_iff_steps ha hb).mp hsame⟩
    · cases hc with
      | counted hdiffer => exact absurd hkind hdiffer
      | nan => exact absurd hsame not_same_nan.1
  · rintro ⟨hm, hsteps⟩
    exact ⟨hm.isBool_eq, (hm.same_iff_steps ha hb).mpr hsteps⟩

/-! ## Sameness along all paths -/

/-- What the values hold is the same if it agrees along all paths. -/
theorem sameSteps_iff_paths
    (h : ∀ step x y, a.stepTo step = some x → b.stepTo step = some y →
      (x.sameInside y = true ↔ ∀ path, AgreeAlong x y path)) :
    SameSteps a b ↔ ∀ step path, AgreeAlong a b (step :: path) := by
  refine forall_congr' fun step => ?_
  simp only [AgreeAlong, at?]
  cases hx : a.stepTo step with
  | none =>
    cases hy : b.stepTo step with
    | none => simp
    | some y => simpa using ⟨[], by simp [at?]⟩
  | some x =>
    cases hy : b.stepTo step with
    | none => simpa using ⟨[], by simp [at?]⟩
    | some y => exact Option.rel_some_some.trans (h step x y hx hy)

theorem sameInside_iff_paths {a b : Value} (ha : a.namesDistinct = true) (hb : b.namesDistinct = true) :
    a.sameInside b = true ↔ ∀ path, AgreeAlong a b path := by
  have hsteps := sameSteps_iff_paths (a := a) (b := b) fun step x y hx hy =>
    have := sizeOf_stepTo_lt hx
    sameInside_iff_paths (namesDistinct_stepTo ha hx) (namesDistinct_stepTo hb hy)
  have htop : AgreeAlong a b [] ↔ Matches a b ∨ Confused a b := Option.rel_some_some
  rw [sameInside_iff_steps ha hb, hsteps, ← htop]
  constructor
  · rintro ⟨htop, hrest⟩ (_ | ⟨step, path⟩)
    · exact htop
    · exact hrest step path
  · exact fun h => ⟨h [], fun step path => h (step :: path)⟩
termination_by sizeOf a

theorem strictlySame_iff (ha : a.namesDistinct = true) (hb : b.namesDistinct = true) :
    a.strictlySame b = true ↔ EqualButInside a b := by
  rw [strictlySame_iff_steps ha hb, sameSteps_iff_paths fun step x y hx hy =>
    sameInside_iff_paths (namesDistinct_stepTo ha hx) (namesDistinct_stepTo hb hy)]
  rfl

theorem rel_imp {R S : Value → Value → Prop} {x y : Option Value}
    (h : ∀ v w, x = some v → y = some w → R v w → S v w) (hr : Option.Rel R x y) : Option.Rel S x y := by
  cases hr with
  | none => exact .none
  | some hr => exact .some (h _ _ rfl rfl hr)

/-- Values are equal as JSON if they match, agree inside, and are confused at no place. -/
theorem jsonEqual_iff :
    JsonEqual a b ↔
      EqualButInside a b ∧ ∀ path x y, a.at? path = some x → b.at? path = some y → ¬ Confused x y := by
  constructor
  · intro h
    refine ⟨⟨Option.rel_some_some.mp (h []), fun step path => ?_⟩, fun path x y hx hy hc => ?_⟩
    · exact rel_imp (fun _ _ _ _ => Or.inl) (h (step :: path))
    · have hrel := h path
      rw [hx, hy, Option.rel_some_some] at hrel
      exact hc.not_matches hrel
  · rintro ⟨⟨htop, hrest⟩, hclear⟩ (_ | ⟨step, path⟩)
    · exact .some htop
    · exact rel_imp (fun x y hx hy hxy => hxy.resolve_right (hclear _ x y hx hy)) (hrest step path)

end Places

end Value

namespace Query

open Value (JsonEqual EqualButInside Confused)

/-- A clause with `in` accepts a record exactly if some item of its list is equal to the record's value, but for
places inside that are confused; an item is equal to the value as JSON exactly if there is no such place. So
the clause accepts what is equal to an item and nothing else, exactly if some item is equal whenever some item is
but for such places. -/
theorem among_accepts_iff {record : Record} {field : String} {items : List Value}
    (hvalue : (record.value field).namesDistinct = true) (hitems : ∀ item ∈ items, item.namesDistinct = true) :
    (Clause.accepts ⟨field, .among, .list items⟩ record = true ↔
      ∃ item ∈ items, EqualButInside (record.value field) item) ∧
    (∀ item, JsonEqual (record.value field) item ↔
      EqualButInside (record.value field) item ∧
        ∀ path x y, (record.value field).at? path = some x → item.at? path = some y → ¬ Confused x y) ∧
    ((Clause.accepts ⟨field, .among, .list items⟩ record = true ↔
        ∃ item ∈ items, JsonEqual (record.value field) item) ↔
      ∀ item ∈ items, EqualButInside (record.value field) item →
        ∃ other ∈ items, JsonEqual (record.value field) other) := by
  have haccepts : Clause.accepts ⟨field, .among, .list items⟩ record = true ↔
      ∃ item ∈ items, EqualButInside (record.value field) item := by
    show (items.any fun item => (record.value field).strictlySame item) = true ↔ _
    rw [List.any_eq_true]
    exact exists_congr fun item => and_congr_right fun hitem => Value.strictlySame_iff hvalue (hitems item hitem)
  refine ⟨haccepts, fun item => Value.jsonEqual_iff, ?_⟩
  rw [haccepts]
  constructor
  · exact fun h item hitem heq => h.mp ⟨item, hitem, heq⟩
  · intro h
    constructor
    · rintro ⟨item, hitem, heq⟩
      exact h item hitem heq
    · rintro ⟨item, hitem, heq⟩
      exact ⟨item, hitem, (Value.jsonEqual_iff.mp heq).1⟩

/-! ### Flags in a list -/

def flagged : Record := [("flags", .list [.bool true, .null])]

theorem among_accepts_iff_flags :
    (flagged.value "flags").namesDistinct = true ∧
      (∀ item ∈ [Value.list [.bool true, .null]], item.namesDistinct = true) ∧
      Clause.accepts ⟨"flags", .among, .list [.list [.bool true, .null]]⟩ flagged = true ∧
      ∃ item ∈ [Value.list [.bool true, .null]], EqualButInside (flagged.value "flags") item := by
  have hvalue : (flagged.value "flags").namesDistinct = true := by decide
  have hitems : ∀ item ∈ [Value.list [.bool true, .null]], item.namesDistinct = true := by decide
  have haccepts : Clause.accepts ⟨"flags", .among, .list [.list [.bool true, .null]]⟩ flagged = true := by
    decide +kernel
  exact ⟨hvalue, hitems, haccepts, (among_accepts_iff hvalue hitems).1.mp haccepts⟩

/-- A truth value in a list is accepted for a number in a list. -/
theorem nested_truth_value_is_number :
    Clause.accepts ⟨"flags", .among, .list [.list [.int 1, .null]]⟩ flagged = true ∧
      ¬ ∃ item ∈ [Value.list [.int 1, .null]], JsonEqual (flagged.value "flags") item := by
  refine ⟨by decide +kernel, ?_⟩
  rintro ⟨item, hitem, hequal⟩
  obtain rfl := List.mem_singleton.mp hitem
  have hfirst : Value.Matches (.bool true) (.int 1) := Option.rel_some_some.mp (hequal [.item 0])
  cases hfirst.isBool_eq

end Query

end DocumentStore
