/-
  DocumentStore.Proofs.Writable — what comes of it where something has no text.

  A key, a draft or a value has a text unless a number in it is too long or it nests too deep, and
  then the reason is the failure (`textUnless_eq_error_iff`). So a record has an id in words, or the
  failure of its id (`Record.idOf_eq_error_iff`), and who owns a record is decided, or fails with the
  failure of one of the two ids (`Rule.owns_error`). None of these failures is a refusal.
-/

import DocumentStore.Proofs.Result
import DocumentStore.Rule.Basic

namespace DocumentStore

section Texts

variable {fault : Option Unwritable} {text : String} {f : Failure}

theorem textUnless_eq_error_iff : textUnless fault text = .error f ↔ ∃ u, fault = some u ∧ f = u.failure .text := by
  cases fault <;> simp [textUnless, eq_comm]

theorem Unwritable.refusal?_failure (u : Unwritable) (deep : Nesting) : (u.failure deep).refusal? = none := by
  cases u <;> rfl

/-- The id of a record is missing in words only if it is there and has no text. -/
theorem Record.idOf_eq_error_iff {record : Option Record} : Record.idOf record = .error f ↔
    ∃ id u, (record.bind fun r => r.get? "_id") = some id ∧ id.unwritable? = some u ∧ f = u.failure .text := by
  unfold Record.idOf
  cases record.bind fun r => r.get? "_id" with
  | none => simp
  | some id =>
    have hid : id.spelled.map some = .error f ↔ ∃ u, id.unwritable? = some u ∧ f = u.failure .text :=
      Result.map_eq_error.trans textUnless_eq_error_iff
    cases id with
    | null => simp [Value.unwritable?, Draft.ofValue, Draft.unwritable?]
    | _ => simpa using hid

end Texts

namespace Rule

/-- An id or an owner that a rule may ask for has no text, for this reason. -/
inductive Context.LacksText (ctx : Context) (u : Unwritable) : Prop
  | user {id : Value} (hid : (ctx.user.bind fun r => r.get? "_id") = some id) (hu : id.unwritable? = some u)
  | owner {owner : Draft} (howner : ownerIn ctx.data = some owner) (hu : owner.unwritable? maxNesting = some u)
  | newOwner {owner : Draft} (howner : ctx.newData.get? Store.ownerField = some owner)
      (hu : owner.unwritable? maxNesting = some u)

theorem owns_error {ctx : Context} {owner : Option Draft} {f : Failure} (h : ctx.owns owner = .error f) :
    (∃ id u, (ctx.user.bind fun r => r.get? "_id") = some id ∧ id.unwritable? = some u ∧ f = u.failure .text) ∨
      ∃ o u, owner = some o ∧ o.unwritable? maxNesting = some u ∧ f = u.failure .text := by
  unfold Context.owns at h
  split at h
  · rename_i hid
    cases h
    exact Or.inl (Record.idOf_eq_error_iff.mp hid)
  · unfold Rule.owns at h
    split at h
    · cases h
    · rename_i o _ _
      obtain ⟨u, hu, rfl⟩ := textUnless_eq_error_iff.mp (Result.map_eq_error.mp h)
      exact Or.inr ⟨o, u, rfl, hu, rfl⟩
    · cases h

end Rule

end DocumentStore
