/-
  DocumentStore.Proofs.TwoReads — two reads that are answered the same.

  The runs are taken step by step: they find records that are the same but for the fields in
  `p`, the rules let both pass and hide the same fields, those in `p` among them, and the joins
  of both find the same but for a password hash. What is left at the end is one answer, or one
  failure (`readFrom_alike`).
-/

import DocumentStore.Proofs.PlainRules
import DocumentStore.Proofs.ReadPolicy
import DocumentStore.Proofs.Without

namespace DocumentStore

variable {p : String → Bool}

namespace Query

def Shaped.records : Shaped → List Record
  | .one record => [record]
  | .many records => records
  | .count _ => []

theorem records_reshape (found : Found) (records : List Record) : (found.reshape records).records = records := by
  cases found with
  | many rs => rfl
  | one r =>
    match records with
    | [] => rfl
    | [record] => rfl
    | _ :: _ :: _ => rfl

/-- Nothing is answered beyond what was found. -/
theorem length_records_shape {d : Directives} {resolve : Resolver} {found : Found} {shaped : Shaped}
    (h : shape d (some resolve) found = .ok shaped) : shaped.records.length ≤ found.records.length := by
  rcases shape_ok h with rfl | ⟨joined, hj, rfl⟩
  · exact Nat.zero_le _
  · rw [records_reshape, hj.length_eq]

end Query

namespace Rule.Engine

open Query (Shaped)

/-! ## Redaction -/

/-- If the fields in which records differ are hidden, the records are shown the same. -/
theorem redact_alike {r₁ r₂ : Record} (h : r₁.drop p = r₂.drop p) {hidden : List String}
    (hp : ∀ field, p field = true → field ∈ hidden) : redact hidden r₁ = redact hidden r₂ := by
  have hsub : ∀ field, p field = true → hidden.contains field = true :=
    fun field hf => List.contains_iff_mem.mpr (hp field hf)
  rw [redact_eq_drop, redact_eq_drop, ← Keyed.drop_drop hsub r₁, h, Keyed.drop_drop hsub]

theorem redactItems_alike {rs₁ rs₂ : List Record} (h : rs₁.map (·.drop p) = rs₂.map (·.drop p))
    {hidden : List (List String)} (hlen : rs₁.length ≤ hidden.length)
    (hp : ∀ hs ∈ hidden, ∀ field, p field = true → field ∈ hs) :
    redactItems hidden (rs₁.map .object) = redactItems hidden (rs₂.map .object) := by
  induction rs₁ generalizing rs₂ hidden with
  | nil =>
    obtain rfl : rs₂ = [] := List.map_eq_nil_iff.mp h.symm
    rfl
  | cons r₁ rest₁ ih =>
    obtain ⟨r₂, rest₂, rfl, hr, hrest⟩ := List.map_eq_cons_iff.mp h.symm
    cases hidden with
    | nil => exact absurd hlen (Nat.not_succ_le_zero _)
    | cons hs others =>
      have hfirst := redact_alike hr.symm (hp hs List.mem_cons_self)
      have hothers := ih hrest.symm (Nat.le_of_succ_le_succ hlen) fun hs' h => hp hs' (List.mem_cons_of_mem hs h)
      simp only [List.map_cons, redactItems, redactValue, hfirst, hothers]

theorem redactAll_alike {shaped₁ shaped₂ : Shaped} (h : shaped₁.map (·.drop p) = shaped₂.map (·.drop p))
    {hidden : List (List String)} (hlen : shaped₁.records.length ≤ hidden.length)
    (hp : ∀ hs ∈ hidden, ∀ field, p field = true → field ∈ hs) :
    redactAll hidden shaped₁.toValue = redactAll hidden shaped₂.toValue := by
  cases shaped₁ with
  | count n =>
    cases shaped₂ with
    | count m =>
      cases h
      rfl
    | _ => cases h
  | many rs₁ =>
    cases shaped₂ with
    | many rs₂ => exact congrArg Value.list (redactItems_alike (Shaped.many.inj h) hlen hp)
    | _ => cases h
  | one r₁ =>
    cases shaped₂ with
    | one r₂ =>
      cases hidden with
      | nil => exact absurd hlen (Nat.not_succ_le_zero _)
      | cons hs others =>
        exact congrArg Value.object (redact_alike (Shaped.one.inj h) (hp hs List.mem_cons_self))
    | _ => cases h

/-! ## Gates -/

section Gates

variable {engine₁ engine₂ : Engine} {a b : Caller} {collection : Option String}

theorem hiddenEach_alike (hgate : ∀ r₁ r₂ : Record, r₁.drop p = r₂.drop p →
      engine₁.gate a .read collection (some r₁) none = engine₂.gate b .read collection (some r₂) none)
    {rs₁ rs₂ : List Record} (h : rs₁.map (·.drop p) = rs₂.map (·.drop p)) :
    engine₁.hiddenEach a collection rs₁ = engine₂.hiddenEach b collection rs₂ := by
  induction rs₁ generalizing rs₂ with
  | nil =>
    obtain rfl : rs₂ = [] := List.map_eq_nil_iff.mp h.symm
    rfl
  | cons r₁ rest₁ ih =>
    obtain ⟨r₂, rest₂, rfl, hr, hrest⟩ := List.map_eq_cons_iff.mp h.symm
    rw [hiddenEach, hiddenEach, hgate r₁ r₂ hr.symm, ih hrest.symm]

end Gates

end Rule.Engine

namespace Service

open Query (Directives Found Resolver FindAlike)
open Rule (Engine)

theorem queryResult_map {α β : Type} (f : α → β) (x : Except Failure α) :
    queryResult (x.map f) = (queryResult x).map f := by
  cases x <;> rfl

section

variable {engine₁ engine₂ : Engine} {data₁ data₂ users₁ users₂ : Collections} {a b : Caller} {name : String}
  {call : Call}

/-- What holds of the fields hidden from every single record holds of those of all records. -/
theorem forall_of_gates {engine : Engine} {caller : Caller} {P : List String → Prop} {records : List Record}
    {hidden : List (List String)}
    (hP : ∀ record hs, engine.gate caller .read (some name) (some record) none = .ok hs → P hs)
    (h : List.Forall₂ (fun record hs => engine.gate caller .read (some name) (some record) none = .ok hs)
      records hidden) : ∀ hs ∈ hidden, P hs := by
  induction h with
  | nil => exact fun _ hs => absurd hs List.not_mem_nil
  | cons hg _ ih => exact List.forall_mem_cons.mpr ⟨hP _ _ hg, ih⟩

/-- Two reads of a collection that find, pass and join alike but for fields that are hidden from
both have the same result. -/
theorem readFrom_alike
    (hselect : ∀ d, Directives.parse call.params = .ok d →
      (select data₁ name call.path d).map (Found.map (·.drop p)) =
        (select data₂ name call.path d).map (Found.map (·.drop p)))
    (hjoin : ∀ d, Directives.parse call.params = .ok d → ∀ load ∈ d.load,
      FindAlike (related data₁ users₁) (related data₂ users₂) load.collection ∧ p load.source = false)
    (hgate : ∀ r₁ r₂ : Record, r₁.drop p = r₂.drop p →
      engine₁.gate a .read (some name) (some r₁) none = engine₂.gate b .read (some name) (some r₂) none)
    (hhidden : ∀ record hidden, engine₂.gate b .read (some name) (some record) none = .ok hidden →
      ∀ field, p field = true → field ∈ hidden) :
    readFrom engine₁ data₁ users₁ name { call with caller := a } =
      readFrom engine₂ data₂ users₂ name { call with caller := b } := by
  unfold readFrom
  dsimp only
  cases hparse : queryResult (Directives.parse call.params) with
  | error f => rfl
  | ok d =>
    have hd := queryResult_ok hparse
    dsimp only
    have hfound : (queryResult (select data₁ name call.path d)).map (Found.map (·.drop p)) =
        (queryResult (select data₂ name call.path d)).map (Found.map (·.drop p)) := by
      rw [← queryResult_map, hselect d hd, queryResult_map]
    rcases Result.cases_of_map_eq hfound with ⟨f, h₁, h₂⟩ | ⟨found₁, found₂, h₁, h₂, hsame⟩
    · rw [h₁, h₂]
    rw [h₁, h₂]
    have hrecords : found₁.records.map (·.drop p) = found₂.records.map (·.drop p) := by
      rw [← Found.records_map, hsame, Found.records_map]
    simp only [Engine.passRead, recordsOf_foundValue]
    rw [Engine.hiddenEach_alike hgate hrecords]
    cases hg : engine₂.hiddenEach b (some name) found₂.records with
    | error f => rfl
    | ok hidden =>
      dsimp only
      have hshape : (queryResult (Query.shape d (some (related data₁ users₁)) found₁)).map (Query.Shaped.map (·.drop p)) =
          (queryResult (Query.shape d (some (related data₂ users₂)) found₂)).map (Query.Shaped.map (·.drop p)) := by
        rw [← queryResult_map, Query.shape_alike (hjoin d hd) hsame, queryResult_map]
      rcases Result.cases_of_map_eq hshape with ⟨f, h₁, h₂⟩ | ⟨shaped₁, shaped₂, h₁, h₂, hshaped⟩
      · rw [h₁, h₂]
      · rw [h₁, h₂]
        have hall := hiddenEach_eq_ok_iff.mp hg
        have hlen : shaped₁.records.length ≤ hidden.length :=
          calc shaped₁.records.length
            _ ≤ found₁.records.length := Query.length_records_shape (queryResult_ok h₁)
            _ = found₂.records.length := by simpa using congrArg List.length hrecords
            _ = hidden.length := hall.length_eq
        have hp : ∀ hs ∈ hidden, ∀ field, p field = true → field ∈ hs := forall_of_gates hhidden hall
        exact congrArg Except.ok (Engine.redactAll_alike hshaped hlen hp)

end

end Service

end DocumentStore
