/-
  DocumentStore.Proofs.Named — what a look-up finds after a list of fields was changed, and what
  becomes of the list.

  Names are told apart by equality, keys of any sort only by `==`, which a key need not
  even have with itself. So most laws for `put` and `overlay` are about names, and those that
  hold for keys as well (`get?_put_self`, `get?_put_of_not_beq`) ask for what they use.

  A put replaces a value in its place or adds it at the end (`exists_put`, `put_of_get?_none`),
  and where names stand once an erasure takes one field out (`exists_split`). Dropping some names comes
  to the same before and after a put or an overlay (`drop_put`, `drop_overlay`).
-/

import DocumentStore.Named

namespace DocumentStore.Keyed

variable {κ α : Type}

section Keys

variable [BEq κ]

theorem get?_cons (f : κ × α) (rest : Keyed κ α) (key : κ) :
    get? (f :: rest) key = if f.1 == key then some f.2 else get? rest key := rfl

theorem get?_put_self (fields : Keyed κ α) {key : κ} (hk : (key == key) = true) (value : α) :
    get? (put fields key value) key = some value := by
  induction fields with
  | nil => simp [put, get?, hk]
  | cons f rest ih =>
    obtain ⟨k, v⟩ := f
    by_cases h : (k == key) = true
    · simp [put, get?, h]
    · simp [put, get?, h, ih]

theorem mem_put {fields : Keyed κ α} {key : κ} {value : α} {f : κ × α} (h : f ∈ put fields key value) :
    f ∈ fields ∨ f.1 = key ∨ (f.1 == key) = true := by
  induction fields with
  | nil =>
    rw [List.mem_singleton.mp h]
    exact Or.inr (Or.inl rfl)
  | cons g rest ih =>
    unfold put at h
    split at h
    · rename_i hk
      rcases List.mem_cons.mp h with rfl | h
      · exact Or.inr (Or.inr hk)
      · exact Or.inl (List.mem_cons_of_mem g h)
    · rcases List.mem_cons.mp h with rfl | h
      · exact Or.inl List.mem_cons_self
      · exact (ih h).imp_left (List.mem_cons_of_mem g)

theorem forall_put {P : α → Prop} {fields : Keyed κ α} {key : κ} {value : α}
    (hf : ∀ f ∈ fields, P f.2) (hv : P value) : ∀ f ∈ put fields key value, P f.2 := by
  induction fields with
  | nil =>
    intro f hm
    rw [List.mem_singleton.mp hm]
    exact hv
  | cons g rest ih =>
    have hrest : ∀ f ∈ rest, P f.2 := fun f hm => hf f (List.mem_cons_of_mem g hm)
    intro f hm
    unfold put at hm
    split at hm
    · rcases List.mem_cons.mp hm with rfl | hm
      · exact hv
      · exact hrest f hm
    · rcases List.mem_cons.mp hm with rfl | hm
      · exact hf _ List.mem_cons_self
      · exact ih hrest f hm

theorem forall_overlay {P : α → Prop} {base changes : Keyed κ α}
    (hb : ∀ f ∈ base, P f.2) (hc : ∀ f ∈ changes, P f.2) : ∀ f ∈ overlay base changes, P f.2 := by
  induction changes generalizing base with
  | nil => exact hb
  | cons g rest ih =>
    exact ih (forall_put hb (hc g List.mem_cons_self)) fun f hm => hc f (List.mem_cons_of_mem g hm)

theorem forall_of_get? {P : α → Prop} {fields : Keyed κ α} (hf : ∀ f ∈ fields, P f.2) {key : κ} {value : α}
    (h : get? fields key = some value) : P value := by
  induction fields with
  | nil => cases h
  | cons g rest ih =>
    rw [get?_cons] at h
    split at h
    · cases h
      exact hf g List.mem_cons_self
    · exact ih (fun f hm => hf f (List.mem_cons_of_mem g hm)) h

/-- A key that is equal to none that is equal to `key` is not touched by a put under `key`. -/
theorem get?_put_of_not_beq (fields : Keyed κ α) {key other : κ} (hk : (key == other) = false)
    (hne : ∀ k, (k == key) = true → (k == other) = false) (value : α) :
    get? (put fields key value) other = get? fields other := by
  induction fields with
  | nil => simp [put, get?, hk]
  | cons f rest ih =>
    obtain ⟨k, v⟩ := f
    by_cases h : (k == key) = true
    · simp [put, get?, h, hne k h]
    · simp [put, get?, h, ih]

theorem get?_append (a b : Keyed κ α) (key : κ) : get? (a ++ b) key = (get? a key).or (get? b key) := by
  induction a with
  | nil => rfl
  | cons f rest ih =>
    rw [List.cons_append, get?_cons, get?_cons, ih]
    split <;> rfl

/-- What stands under another key does not matter for a look-up. -/
theorem get?_middle_of_not_beq {key other : κ} (hk : (key == other) = false) (a b : Keyed κ α) (value : α) :
    get? (a ++ (key, value) :: b) other = get? (a ++ b) other := by
  rw [get?_append, get?_append, get?_cons, if_neg (by rw [hk]; exact Bool.false_ne_true)]

theorem get?_middle_self {a : Keyed κ α} {key : κ} (hk : (key == key) = true) (h : get? a key = none)
    (b : Keyed κ α) (value : α) : get? (a ++ (key, value) :: b) key = some value := by
  rw [get?_append, h, Option.none_or, get?_cons, if_pos hk]

theorem mem_erase {fields : Keyed κ α} {key : κ} {f : κ × α} :
    f ∈ erase fields key ↔ f ∈ fields ∧ (f.1 == key) = false := by
  simp [erase, List.mem_filter]

theorem not_beq_of_mem_erase {fields : Keyed κ α} {key : κ} {f : κ × α} (h : f ∈ erase fields key) :
    (f.1 == key) = false := (mem_erase.mp h).2

theorem get?_eq_none_of_forall {fields : Keyed κ α} {key : κ} (h : ∀ f ∈ fields, (f.1 == key) = false) :
    get? fields key = none := by
  induction fields with
  | nil => rfl
  | cons f rest ih =>
    rw [get?_cons, h f List.mem_cons_self]
    exact ih fun g hg => h g (List.mem_cons_of_mem f hg)

@[simp] theorem get?_erase_self (fields : Keyed κ α) (key : κ) : get? (erase fields key) key = none :=
  get?_eq_none_of_forall fun _ hf => not_beq_of_mem_erase hf

section Mapped

variable {β : Type} {key : κ} {g : κ → α → β} (hg : ∀ k, (k == key) = true → g k = g key)

include hg

theorem get?_map (fields : Keyed κ α) :
    get? (fields.map fun f => (f.1, g f.1 f.2)) key = (get? fields key).map (g key) := by
  induction fields with
  | nil => rfl
  | cons f rest ih =>
    rw [List.map_cons, get?_cons, get?_cons, ih]
    split
    · rename_i h
      rw [hg f.1 h]
      rfl
    · rfl

theorem put_map (fields : Keyed κ α) (value : α) :
    put (fields.map fun f => (f.1, g f.1 f.2)) key (g key value) =
      (put fields key value).map fun f => (f.1, g f.1 f.2) := by
  induction fields with
  | nil => rfl
  | cons f rest ih =>
    rw [List.map_cons, put, put, ih]
    split
    · rename_i h
      rw [List.map_cons, hg f.1 h]
    · rfl

end Mapped

/-! ## Where a change takes place -/

/-- A put under a key that is not in the first part of a list goes to the other. -/
theorem put_append {a : Keyed κ α} {key : κ} (h : get? a key = none) (b : Keyed κ α) (value : α) :
    put (a ++ b) key value = a ++ put b key value := by
  induction a with
  | nil => rfl
  | cons f rest ih =>
    obtain ⟨k, v⟩ := f
    rw [get?_cons] at h
    split at h
    · cases h
    · rename_i hk
      rw [List.cons_append, put, if_neg hk, ih h, List.cons_append]

/-- Under a key that is not there a put adds a field at the end. -/
theorem put_of_get?_none {fields : Keyed κ α} {key : κ} (h : get? fields key = none) (value : α) :
    put fields key value = fields ++ [(key, value)] := by
  have hput := put_append h [] value
  rwa [List.append_nil] at hput

/-- Under a key that is there a put replaces the value in its place, if keys that are equal to
this one are the same. -/
theorem exists_put {fields : Keyed κ α} {key : κ} {old : α} (hkey : ∀ k, (k == key) = true → k = key)
    (h : get? fields key = some old) :
    ∃ before after, fields = before ++ (key, old) :: after ∧ (∀ f ∈ before, (f.1 == key) = false) ∧
      ∀ value, put fields key value = before ++ (key, value) :: after := by
  induction fields with
  | nil => cases h
  | cons f rest ih =>
    obtain ⟨k, v⟩ := f
    rw [get?_cons] at h
    split at h
    · rename_i hk
      obtain rfl : v = old := Option.some.inj h
      obtain rfl : k = key := hkey k hk
      exact ⟨[], rest, rfl, fun _ hf => absurd hf List.not_mem_nil, fun value => by rw [put, if_pos hk]; rfl⟩
    · rename_i hk
      obtain ⟨before, after, rfl, hbefore, hput⟩ := ih h
      refine ⟨(k, v) :: before, after, rfl, fun f hf => ?_, fun value => by rw [put, if_neg hk, hput]; rfl⟩
      rcases List.mem_cons.mp hf with rfl | hf
      · exact Bool.eq_false_iff.mpr hk
      · exact hbefore f hf

/-- What is there is put there again without a change. -/
theorem put_of_get? {fields : Keyed κ α} {key : κ} {value : α} (hkey : ∀ k, (k == key) = true → k = key)
    (h : get? fields key = some value) : put fields key value = fields := by
  obtain ⟨before, after, hfields, -, hput⟩ := exists_put hkey h
  rw [hput, hfields]

/-- Of two puts under one key the second counts. -/
theorem put_put (fields : Keyed κ α) {key : κ} (hk : (key == key) = true) (first second : α) :
    put (put fields key first) key second = put fields key second := by
  induction fields with
  | nil => simp [put, hk]
  | cons f rest ih =>
    obtain ⟨k, v⟩ := f
    by_cases h : (k == key) = true
    · simp [put, h]
    · simp [put, h, ih]

end Keys

/-! ## Names -/

variable [BEq κ] [LawfulBEq κ]

theorem mem_of_get? {fields : Keyed κ α} {key : κ} {value : α} (h : get? fields key = some value) :
    (key, value) ∈ fields := by
  induction fields with
  | nil => cases h
  | cons f rest ih =>
    rw [get?_cons] at h
    split at h
    · rename_i hk
      obtain ⟨k, v⟩ := f
      cases h
      obtain rfl : k = key := eq_of_beq hk
      exact List.mem_cons_self
    · exact List.mem_cons_of_mem f (ih h)

theorem get?_put_of_ne (fields : Keyed κ α) {key other : κ} (hne : other ≠ key) (value : α) :
    get? (put fields key value) other = get? fields other := by
  have hk : (key == other) = false := beq_eq_false_iff_ne.mpr (Ne.symm hne)
  exact get?_put_of_not_beq fields hk (fun k h => (eq_of_beq h).symm ▸ hk) value

theorem get?_drop {p : κ → Bool} {key : κ} (hp : p key = false) (fields : Keyed κ α) :
    get? (drop p fields) key = get? fields key := by
  induction fields with
  | nil => rfl
  | cons f rest ih =>
    rw [get?_cons, ← ih]
    by_cases h : f.1 = key
    · simp [drop, h, hp, get?_cons]
    · cases hf : p f.1 <;> simp [drop, hf, h, get?_cons]

theorem get?_erase_of_ne (fields : Keyed κ α) {key other : κ} (hne : other ≠ key) :
    get? (erase fields key) other = get? fields other :=
  get?_drop (p := (· == key)) (beq_eq_false_iff_ne.mpr hne) fields

/-- A name that no change bears keeps its value. -/
theorem get?_overlay_of_forall_ne {key : κ} {changes : Keyed κ α} (h : ∀ f ∈ changes, f.1 ≠ key)
    (base : Keyed κ α) : get? (overlay base changes) key = get? base key := by
  induction changes generalizing base with
  | nil => rfl
  | cons f rest ih =>
    have hrest : ∀ g ∈ rest, g.1 ≠ key := fun g hg => h g (List.mem_cons_of_mem f hg)
    show get? (overlay (put base f.1 f.2) rest) key = get? base key
    rw [ih hrest, get?_put_of_ne base (Ne.symm (h f List.mem_cons_self))]

/-- What an overlay holds is one of the changes or was there before. -/
theorem mem_or_get?_of_get?_overlay {key : κ} {value : α} {base changes : Keyed κ α}
    (h : get? (overlay base changes) key = some value) :
    (key, value) ∈ changes ∨ get? base key = some value := by
  induction changes generalizing base with
  | nil => exact Or.inr h
  | cons f rest ih =>
    have hput : get? (overlay (put base f.1 f.2) rest) key = some value := h
    rcases ih hput with hm | hg
    · exact Or.inl (List.mem_cons_of_mem f hm)
    · by_cases e : key = f.1
      · subst e
        rw [get?_put_self base (beq_self_eq_true _)] at hg
        cases hg
        exact Or.inl List.mem_cons_self
      · rw [get?_put_of_ne base e] at hg
        exact Or.inr hg

theorem get?_eq_none_iff {fields : Keyed κ α} {key : κ} : get? fields key = none ↔ key ∉ names fields := by
  induction fields with
  | nil => simp [get?, names]
  | cons f rest ih =>
    rw [get?_cons]
    by_cases h : f.1 = key
    · simp [h, names]
    · simpa [h, Ne.symm h, names] using ih

theorem names_put (fields : Keyed κ α) (key : κ) (value : α) :
    names (put fields key value) = if key ∈ names fields then names fields else names fields ++ [key] := by
  induction fields with
  | nil => rfl
  | cons f rest ih =>
    obtain ⟨k, v⟩ := f
    by_cases h : k = key
    · simp [put, names, h]
    · simp only [names] at ih
      simp only [put, names, List.map_cons, beq_eq_false_iff_ne.mpr h, Bool.false_eq_true, if_false, ih,
        List.mem_cons, Ne.symm h, false_or]
      split <;> rename_i hm <;> simp [hm]

theorem nodup_names_put {fields : Keyed κ α} (h : (names fields).Nodup) (key : κ) (value : α) :
    (names (put fields key value)).Nodup := by
  rw [names_put]
  split
  · exact h
  · rename_i hk
    exact List.nodup_append.mpr ⟨h, by simp, fun a ha b hb e => hk (List.mem_singleton.mp hb ▸ e ▸ ha)⟩

theorem nodup_names_overlay {base : Keyed κ α} (h : (names base).Nodup) (changes : Keyed κ α) :
    (names (overlay base changes)).Nodup := by
  induction changes generalizing base with
  | nil => exact h
  | cons f rest ih => exact ih (nodup_names_put h f.1 f.2)

/-- A field that is there under a name that stands once is found. -/
theorem get?_of_mem {fields : Keyed κ α} (hn : (names fields).Nodup) {f : κ × α} (hf : f ∈ fields) :
    get? fields f.1 = some f.2 := by
  induction fields with
  | nil => exact absurd hf List.not_mem_nil
  | cons g rest ih =>
    obtain ⟨hg, hrest⟩ := List.nodup_cons.mp hn
    rcases List.mem_cons.mp hf with rfl | hf
    · rw [get?_cons, if_pos (beq_self_eq_true _)]
    · have hne : g.1 ≠ f.1 := fun e => hg (List.mem_map.mpr ⟨f, hf, e.symm⟩)
      rw [get?_cons, if_neg (by simpa using hne), ih hrest hf]

/-- Where a name stands once there is one place for it: a put changes the value there, and an erasure
takes the field out. -/
theorem exists_split {fields : Keyed κ α} (hn : (names fields).Nodup) {key : κ} {value : α}
    (h : get? fields key = some value) :
    ∃ before after, fields = before ++ (key, value) :: after ∧ key ∉ names before ∧ key ∉ names after ∧
      (∀ value', put fields key value' = before ++ (key, value') :: after) ∧ erase fields key = before ++ after := by
  obtain ⟨before, after, rfl, hbefore, hput⟩ := exists_put (fun _ => eq_of_beq) h
  simp only [names, List.map_append, List.map_cons] at hn
  have hafter : key ∉ names after := (List.nodup_cons.mp (List.nodup_append.mp hn).2.1).1
  have hkeep : ∀ {fs : Keyed κ α}, key ∉ names fs → erase fs key = fs := fun hfs =>
    List.filter_eq_self.mpr fun f hf => by
      have hne : f.1 ≠ key := fun e => hfs (e ▸ List.mem_map_of_mem hf)
      rw [beq_eq_false_iff_ne.mpr hne]
      rfl
  have hfront : key ∉ names before := get?_eq_none_iff.mp (get?_eq_none_of_forall hbefore)
  refine ⟨before, after, rfl, hfront, hafter, hput, ?_⟩
  rw [← hkeep hfront, ← hkeep hafter]
  simp [erase]

theorem drop_put {p : κ → Bool} (fields : Keyed κ α) (key : κ) (value : α) :
    drop p (put fields key value) = if p key then drop p fields else put (drop p fields) key value := by
  induction fields with
  | nil => cases hp : p key <;> simp [put, drop, hp]
  | cons f rest ih =>
    obtain ⟨k, v⟩ := f
    by_cases h : k = key
    · subst h
      cases hp : p k <;> simp [put, drop, hp]
    · simp only [drop] at ih
      simp only [put, beq_eq_false_iff_ne.mpr h, Bool.false_eq_true, if_false, drop, List.filter_cons, ih]
      cases p k <;> cases p key <;> simp [put, h]

omit [BEq κ] [LawfulBEq κ] in
@[simp] theorem drop_false (fields : Keyed κ α) : drop (fun _ => false) fields = fields :=
  List.filter_eq_self.mpr fun _ _ => rfl

omit [BEq κ] [LawfulBEq κ] in
/-- Of what is dropped in the end nothing need be there before. -/
theorem drop_drop {p q : κ → Bool} (h : ∀ k, p k = true → q k = true) (fields : Keyed κ α) :
    drop q (drop p fields) = drop q fields := by
  rw [drop, drop, drop, List.filter_filter]
  refine List.filter_congr fun f _ => ?_
  cases hp : p f.1 with
  | true => simp [h f.1 hp]
  | false => simp

theorem drop_overlay {p : κ → Bool} (base changes : Keyed κ α) :
    drop p (overlay base changes) = overlay (drop p base) (drop p changes) := by
  induction changes generalizing base with
  | nil => rfl
  | cons f rest ih =>
    show drop p (overlay (put base f.1 f.2) rest) = _
    rw [ih, drop_put]
    cases hp : p f.1 with
    | true => simp [drop, hp]
    | false => simp [drop, hp, overlay]

/-- What two lists have in common but for some names, they have alike. -/
theorem get?_congr {p : κ → Bool} {a b : Keyed κ α} (h : drop p a = drop p b) {key : κ} (hp : p key = false) :
    get? a key = get? b key := by
  rw [← get?_drop hp a, h, get?_drop hp]

/-- If no key is changed twice, an overlay has the changes and else what was there before. -/
theorem get?_overlay {changes : Keyed κ α} (h : (names changes).Nodup) (base : Keyed κ α) (key : κ) :
    get? (overlay base changes) key = (get? changes key).or (get? base key) := by
  induction changes generalizing base with
  | nil => rfl
  | cons f rest ih =>
    obtain ⟨hf, hrest⟩ := List.nodup_cons.mp h
    show get? (overlay (put base f.1 f.2) rest) key = _
    rw [ih hrest, get?_cons]
    by_cases e : f.1 = key
    · subst e
      rw [get?_eq_none_iff.mpr hf, get?_put_self base (beq_self_eq_true f.1), if_pos (beq_self_eq_true f.1)]
      rfl
    · rw [get?_put_of_ne base (Ne.symm e), if_neg (by simpa using e)]

theorem overlay_of_nodup {base changes : Keyed κ α} (h : (names (base ++ changes)).Nodup) :
    overlay base changes = base ++ changes := by
  induction changes generalizing base with
  | nil => exact (List.append_nil base).symm
  | cons f rest ih =>
    have hsplit : base ++ f :: rest = base ++ [f] ++ rest := by simp
    have hfresh : get? base f.1 = none := by
      rw [get?_eq_none_iff]
      rw [names, List.map_append, List.map_cons] at h
      exact fun hf => (List.nodup_append.mp h).2.2 _ hf _ List.mem_cons_self rfl
    show overlay (put base f.1 f.2) rest = _
    rw [put_of_get?_none hfresh, hsplit]
    exact ih (hsplit ▸ h)

/-- Fields whose names differ stay as they are. -/
theorem ofList_of_nodup {fields : Keyed κ α} (h : (names fields).Nodup) : ofList fields = fields :=
  overlay_of_nodup (show (names ([] ++ fields)).Nodup from h)

/-- The fields picked by name are what `f` gives for the names. -/
theorem get?_filterMap (f : κ → Option α) (ks : List κ) (key : κ) :
    get? (ks.filterMap fun k => (f k).map fun v => (k, v)) key = if key ∈ ks then f key else none := by
  induction ks with
  | nil => rfl
  | cons k rest ih =>
    by_cases hk : k = key
    · subst hk
      cases hf : f k with
      | none => simp [hf, ih]
      | some v => simp [hf, get?_cons]
    · cases hf : f k with
      | none => simp [hf, ih, Ne.symm hk]
      | some v => simp [hf, get?_cons, ih, hk, Ne.symm hk]

end DocumentStore.Keyed
