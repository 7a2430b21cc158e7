/-
  DocumentStore.Proofs.Result — opening a result that was changed by a function or passed on to one,
  or of which only is known whether it is one, and results for all members of a list.
-/

import Mathlib.Data.List.Forall2

namespace DocumentStore.Result

variable {ε α β : Type} {f : α → β} {x : Except ε α}

theorem map_eq_ok {b : β} : x.map f = .ok b ↔ ∃ a, x = .ok a ∧ f a = b := by
  cases x with
  | error e => simp [Except.map]
  | ok a => simp [Except.map]

theorem map_eq_error {e : ε} : x.map f = .error e ↔ x = .error e := by
  cases x with
  | error e => simp [Except.map]
  | ok a => simp [Except.map]

theorem exists_map_eq_ok : (∃ b, x.map f = .ok b) ↔ ∃ a, x = .ok a := by
  cases x with
  | error e => simp [Except.map]
  | ok a => simp [Except.map]

theorem bind_eq_ok {g : α → Except ε β} {b : β} : x.bind g = .ok b ↔ ∃ a, x = .ok a ∧ g a = .ok b := by
  cases x with
  | error e => simp [Except.bind]
  | ok a => simp [Except.bind]

theorem bind_eq_error {g : α → Except ε β} {e : ε} :
    x.bind g = .error e ↔ x = .error e ∨ ∃ a, x = .ok a ∧ g a = .error e := by
  cases x with
  | error e => simp [Except.bind]
  | ok a => simp [Except.bind]

/-- Two results that are the same through a function fail alike, or hold what is the same through it. -/
theorem cases_of_map_eq {y : Except ε α} (h : x.map f = y.map f) :
    (∃ e, x = .error e ∧ y = .error e) ∨ ∃ a b, x = .ok a ∧ y = .ok b ∧ f a = f b := by
  cases x with
  | error e => exact Or.inl ⟨e, rfl, map_eq_error.mp h.symm⟩
  | ok a =>
    obtain ⟨b, hb, he⟩ := map_eq_ok.mp h.symm
    exact Or.inr ⟨a, b, rfl, hb, he.symm⟩

theorem isOk_eq_true : x.isOk = true ↔ ∃ a, x = .ok a := by
  cases x with
  | error e => simp [Except.isOk, Except.toBool]
  | ok a => simp [Except.isOk, Except.toBool]

theorem toOption_eq_some {a : α} : x.toOption = some a ↔ x = .ok a := by
  cases x with
  | error e => simp [Except.toOption]
  | ok a => simp [Except.toOption]

/-! ## Lists of results -/

section Lists

variable {γ : Type}

/-- A function that stops at the first member with a failure comes through exactly if each member
has a result. -/
theorem collect_eq_ok_iff (collect : List α → Except ε (List β)) (one : α → Except ε β) (hnil : collect [] = .ok [])
    (hcons : ∀ a as, collect (a :: as) = (one a).bind fun b => (collect as).map (b :: ·))
    {as : List α} {bs : List β} : collect as = .ok bs ↔ List.Forall₂ (fun a b => one a = .ok b) as bs := by
  induction as generalizing bs with
  | nil =>
    rw [hnil, Except.ok.injEq, List.forall₂_nil_left_iff]
    exact eq_comm
  | cons a as ih =>
    rw [hcons, bind_eq_ok, List.forall₂_cons_left_iff]
    simp only [map_eq_ok, ih]
    constructor
    · rintro ⟨b, hb, others, ho, rfl⟩
      exact ⟨b, others, hb, ho, rfl⟩
    · rintro ⟨b, others, hb, ho, rfl⟩
      exact ⟨b, hb, others, ho, rfl⟩

/-- Such a function fails exactly as the first member does that has a failure. -/
theorem collect_eq_error_iff (collect : List α → Except ε (List β)) (one : α → Except ε β)
    (hnil : collect [] = .ok [])
    (hcons : ∀ a as, collect (a :: as) = (one a).bind fun b => (collect as).map (b :: ·))
    {as : List α} {e : ε} :
    collect as = .error e ↔
      ∃ front a back, as = front ++ a :: back ∧ (∀ b ∈ front, (one b).isOk = true) ∧ one a = .error e := by
  induction as with
  | nil => simp [hnil]
  | cons a as ih =>
    rw [hcons, bind_eq_error]
    simp only [map_eq_error, ih]
    constructor
    · rintro (ha | ⟨b, hb, front, c, back, rfl, hfront, hc⟩)
      · exact ⟨[], a, as, rfl, fun _ h => absurd h List.not_mem_nil, ha⟩
      · exact ⟨a :: front, c, back, rfl, List.forall_mem_cons.mpr ⟨isOk_eq_true.mpr ⟨b, hb⟩, hfront⟩, hc⟩
    · rintro ⟨_ | ⟨d, front⟩, c, back, he, hfront, hc⟩
      · cases he
        exact Or.inl hc
      · cases he
        obtain ⟨hd, hrest⟩ := List.forall_mem_cons.mp hfront
        obtain ⟨b, hb⟩ := isOk_eq_true.mp hd
        exact Or.inr ⟨b, hb, front, c, back, rfl, hrest, hc⟩

/-- The failure of such a function is that of a member. -/
theorem exists_of_collect_error (collect : List α → Except ε (List β)) (one : α → Except ε β)
    (hnil : collect [] = .ok [])
    (hcons : ∀ a as, collect (a :: as) = (one a).bind fun b => (collect as).map (b :: ·))
    {as : List α} {e : ε} (h : collect as = .error e) : ∃ a ∈ as, one a = .error e := by
  obtain ⟨front, a, back, rfl, -, ha⟩ := (collect_eq_error_iff collect one hnil hcons).mp h
  exact ⟨a, List.mem_append_right front List.mem_cons_self, ha⟩

/-- Relations that agree on the members of the left list relate it to the same lists. -/
theorem forall₂_congr_of_mem {R S : α → β → Prop} {as : List α} {bs : List β} (h : ∀ a ∈ as, ∀ b, R a b ↔ S a b) :
    List.Forall₂ R as bs ↔ List.Forall₂ S as bs := by
  have hmem : ∀ T : α → β → Prop, List.Forall₂ T as bs ↔ List.Forall₂ (fun a b => a ∈ as ∧ T a b) as bs := by
    intro T
    rw [List.forall₂_and_left]
    exact (and_iff_right fun _ ha => ha).symm
  rw [hmem R, hmem S]
  constructor
  · exact List.Forall₂.imp fun a b hr => ⟨hr.1, (h a hr.1 b).mp hr.2⟩
  · exact List.Forall₂.imp fun a b hs => ⟨hs.1, (h a hs.1 b).mpr hs.2⟩

/-- Lists are related through a list in between exactly if their members are through a member. -/
theorem forall₂_comp_iff {R : α → β → Prop} {S : β → γ → Prop} {as : List α} {cs : List γ} :
    List.Forall₂ (fun a c => ∃ b, R a b ∧ S b c) as cs ↔ ∃ bs, List.Forall₂ R as bs ∧ List.Forall₂ S bs cs := by
  constructor
  · intro h
    induction h with
    | nil => exact ⟨[], .nil, .nil⟩
    | cons hac _ ih =>
      obtain ⟨b, hab, hbc⟩ := hac
      obtain ⟨bs, hr, hs⟩ := ih
      exact ⟨b :: bs, .cons hab hr, .cons hbc hs⟩
  · rintro ⟨bs, hr, hs⟩
    induction hr generalizing cs with
    | nil =>
      cases hs
      exact .nil
    | cons hab _ ih =>
      cases hs with
      | cons hbc hs => exact .cons ⟨_, hab, hbc⟩ (ih hs)

theorem exists_of_mem_right {R : α → β → Prop} {as : List α} {bs : List β} (h : List.Forall₂ R as bs) {b : β}
    (hb : b ∈ bs) : ∃ a ∈ as, R a b := by
  induction h with
  | nil => exact absurd hb List.not_mem_nil
  | cons hab _ ih =>
    rcases List.mem_cons.mp hb with rfl | hb
    · exact ⟨_, List.mem_cons_self, hab⟩
    · obtain ⟨a, ha, hr⟩ := ih hb
      exact ⟨a, List.mem_cons_of_mem _ ha, hr⟩

/-- A list is related to some list exactly if each of its members is to something. -/
theorem exists_forall₂_iff {R : α → β → Prop} {as : List α} :
    (∃ bs, List.Forall₂ R as bs) ↔ ∀ a ∈ as, ∃ b, R a b := by
  constructor
  · rintro ⟨bs, h⟩
    induction h with
    | nil => exact fun _ ha => absurd ha List.not_mem_nil
    | cons hab _ ih => exact List.forall_mem_cons.mpr ⟨⟨_, hab⟩, ih⟩
  · intro h
    induction as with
    | nil => exact ⟨[], .nil⟩
    | cons a as ih =>
      obtain ⟨⟨b, hab⟩, hrest⟩ := List.forall_mem_cons.mp h
      obtain ⟨bs, hbs⟩ := ih hrest
      exact ⟨b :: bs, .cons hab hbs⟩

end Lists

end DocumentStore.Result
