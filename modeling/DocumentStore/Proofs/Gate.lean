/-
  DocumentStore.Proofs.Gate — what a call that passes has met, and what is hidden from it.

  `Admits` is the rule for the whole call, with the admin override; `Denies` is the rule for
  a single field, which knows no override of its own. A passed gate says both
  (`admits_of_gate`, `mem_of_denies`), and redaction takes out exactly the hidden fields
  (`get?_redact`), from a payload (`mem_eraseAll`) as from a record.
-/

import DocumentStore.Proofs.Entry
import DocumentStore.Proofs.Result
import DocumentStore.Rule.Gate

namespace DocumentStore.Rule

/-! ## Decisions -/

namespace Engine

variable (engine : Engine) (caller : Caller) (action : Action) (collection : Option String)
  (data : Option Record) (newData : Option Draft.Members)

def Admits : Prop :=
  ∃ resolved, engine.rules.resolve action collection data = .ok resolved ∧
    (resolved.rule.decide true (engine.contextFor caller data newData) = .ok true ∨ caller.isAdmin = true)

def Denies (field : String) : Prop :=
  ∃ resolved rule, engine.rules.resolve action collection data = .ok resolved ∧
    resolved.fields.get? field = some rule ∧
    rule.decide false (engine.contextFor caller data newData) = .ok false

end Engine

theorem mem_deniedFields {ctx : Context} {fields : Named Rule} {hidden : List String}
    (h : deniedFields ctx fields = .ok hidden) (field : String) :
    field ∈ hidden ↔ ∃ rule, (field, rule) ∈ fields ∧ rule.decide false ctx = .ok false := by
  induction fields generalizing hidden with
  | nil =>
    cases h
    simp
  | cons f rest ih =>
    obtain ⟨name, rule⟩ := f
    rw [deniedFields] at h
    split at h
    · cases h
    · rename_i hyes
      rw [ih h]
      constructor
      · rintro ⟨r, hr, hno⟩
        exact ⟨r, List.mem_cons_of_mem _ hr, hno⟩
      · rintro ⟨r, hr, hno⟩
        rcases List.mem_cons.mp hr with e | hr
        · cases e
          rw [hyes] at hno
          cases hno
        · exact ⟨r, hr, hno⟩
    · rename_i hno
      obtain ⟨others, ho, rfl⟩ := Result.map_eq_ok.mp h
      rw [List.mem_cons, ih ho]
      constructor
      · rintro (rfl | ⟨r, hr, hr'⟩)
        · exact ⟨rule, List.mem_cons_self, hno⟩
        · exact ⟨r, List.mem_cons_of_mem _ hr, hr'⟩
      · rintro ⟨r, hr, hr'⟩
        rcases List.mem_cons.mp hr with e | hr
        · cases e
          exact Or.inl rfl
        · exact Or.inr ⟨r, hr, hr'⟩

namespace Engine

variable {engine : Engine} {caller : Caller} {action : Action} {collection : Option String}
  {data : Option Record} {newData : Option Draft.Members} {hidden : List String}

theorem denial_ne_ok {α : Type} (a : α) : denial caller ≠ .ok a := by
  unfold denial
  cases caller.userId <;> exact fun h => nomatch h

theorem gate_ok (h : engine.gate caller action collection data newData = .ok hidden) :
    ∃ resolved, engine.rules.resolve action collection data = .ok resolved ∧
      (resolved.rule.decide true (engine.contextFor caller data newData) = .ok true ∨ caller.isAdmin = true) ∧
      deniedFields (engine.contextFor caller data newData) resolved.fields = .ok hidden := by
  unfold gate at h
  split at h
  · cases h
  rename_i resolved hresolved
  dsimp only at h
  split at h
  · cases h
  · rename_i allowed hrule
    split at h
    · rename_i hpass
      refine ⟨resolved, hresolved, ?_, h⟩
      rcases Bool.or_eq_true_iff.mp hpass with rfl | hadmin
      · exact Or.inl hrule
      · exact Or.inr hadmin
    · exact absurd h (denial_ne_ok _)

theorem resolve_error {rules : Rules} {f : Failure} (h : rules.resolve action collection data = .error f) :
    Record.idOf data = .error f := by
  unfold Rules.resolve at h
  split at h
  · cases h
  · exact Result.map_eq_error.mp h

/-- Where a call does not pass, its rules cannot be looked up, its rule fails or denies, or a rule of a field fails. -/
theorem gate_eq_error {f : Failure} (h : engine.gate caller action collection data newData = .error f) :
    Record.idOf data = .error f ∨
      ∃ resolved, engine.rules.resolve action collection data = .ok resolved ∧
        (resolved.rule.decide true (engine.contextFor caller data newData) = .error f ∨
          caller.isAdmin = false ∧ (denial caller : Except Failure (List String)) = .error f ∨
          deniedFields (engine.contextFor caller data newData) resolved.fields = .error f) := by
  unfold gate at h
  split at h
  · rename_i hresolve
    cases h
    exact Or.inl (resolve_error hresolve)
  rename_i resolved hresolve
  refine Or.inr ⟨resolved, hresolve, ?_⟩
  dsimp only at h
  split at h
  · rename_i hdecide
    cases h
    exact Or.inl hdecide
  split at h
  · exact Or.inr (Or.inr h)
  · rename_i hno
    rw [Bool.or_eq_true, not_or, Bool.not_eq_true, Bool.not_eq_true] at hno
    exact Or.inr (Or.inl ⟨hno.2, h⟩)

theorem admits_of_gate (h : engine.gate caller action collection data newData = .ok hidden) :
    engine.Admits caller action collection data newData := by
  obtain ⟨resolved, hresolved, hpass, -⟩ := gate_ok h
  exact ⟨resolved, hresolved, hpass⟩

/-- A field whose rule denies is among the hidden ones of every call that passes. -/
theorem mem_of_denies {field : String}
    (h : engine.gate caller action collection data newData = .ok hidden)
    (hd : engine.Denies caller action collection data newData field) : field ∈ hidden := by
  obtain ⟨resolved, hresolved, -, hhidden⟩ := gate_ok h
  obtain ⟨resolved', rule, hresolved', hr, hno⟩ := hd
  obtain rfl : resolved' = resolved := Except.ok.inj (hresolved'.symm.trans hresolved)
  exact (mem_deniedFields hhidden field).mpr ⟨rule, Keyed.mem_of_get? hr, hno⟩

/-! ## Redaction -/

theorem get?_redact (hidden : List String) (record : Record) (field : String) :
    (redact hidden record).get? field = if field ∈ hidden then none else record.get? field := by
  induction hidden generalizing record with
  | nil => rfl
  | cons name rest ih =>
    show (redact rest (record.erase name)).get? field = _
    rw [ih]
    by_cases e : field = name
    · subst e; simp
    · rw [Keyed.get?_erase_of_ne record e]
      simp [e]

/-- Redaction drops the hidden fields and keeps the others in order. -/
theorem redact_eq_drop (hidden : List String) (record : Record) :
    redact hidden record = record.drop fun field => hidden.contains field := by
  induction hidden generalizing record with
  | nil => exact (List.filter_eq_self.mpr fun _ _ => rfl).symm
  | cons name rest ih =>
    show redact rest (record.erase name) = _
    rw [ih, Keyed.erase, Keyed.drop, Keyed.drop, List.filter_filter]
    refine List.filter_congr fun f _ => ?_
    rw [List.contains_cons, Bool.not_or, Bool.and_comm]

theorem mem_redact {hidden : List String} {record : Record} {f : String × Value}
    (h : f ∈ redact hidden record) : f ∈ record ∧ f.1 ∉ hidden := by
  induction hidden generalizing record with
  | nil => exact ⟨h, List.not_mem_nil⟩
  | cons name rest ih =>
    have hrest : f ∈ redact rest (record.erase name) := h
    obtain ⟨he, hn⟩ := ih hrest
    obtain ⟨hm, hne⟩ := Keyed.mem_erase.mp he
    exact ⟨hm, by simpa [hn] using hne⟩

theorem eraseAll_ofMembers (hidden : List String) (ms : Record) :
    eraseAll hidden (Draft.ofMembers ms) = Draft.ofMembers (redact hidden ms) := by
  induction hidden generalizing ms with
  | nil => rfl
  | cons name rest ih =>
    show eraseAll rest (Keyed.erase (Draft.ofMembers ms) (.text name)) = _
    rw [Draft.ofMembers_erase, ih]
    rfl

theorem mem_eraseAll {hidden : List String} {payload : Draft.Members} {field : String} {draft : Draft}
    (h : (.text field, draft) ∈ eraseAll hidden payload) : (.text field, draft) ∈ payload ∧ field ∉ hidden := by
  induction hidden generalizing payload with
  | nil => exact ⟨h, List.not_mem_nil⟩
  | cons name rest ih =>
    have hrest : (.text field, draft) ∈ eraseAll rest (payload.erase (.text name)) := h
    obtain ⟨he, hn⟩ := ih hrest
    obtain ⟨hm, hne⟩ := Keyed.mem_erase.mp he
    rw [Key.text_beq_text, beq_eq_false_iff_ne] at hne
    exact ⟨hm, List.not_mem_cons_of_ne_of_not_mem hne hn⟩

end Engine

end DocumentStore.Rule
