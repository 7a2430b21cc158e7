/-
  DocumentStore.Proofs.QueryFaults — the faults that a query can come to.

  A failure that a caller is told about is a refusal; any other is a defect inside. The service
  makes refusals of the faults of values that it meets in a query or in what a write stores, so these
  are `Answerable`. Stored records are found or read with no others, and the parts of a query are read
  with no others but for one: a literal of the filter is nested too deep (`parse_error`), which is no fault
  of a value. What a single clause fails with, and where, is said once (`Clause.parse_cases`).

  Choosing fails only for a value that cannot be written (`narrow_error`), and joining for a source
  without a text or as the look-up of a related record does (`shape_error`, `Breaks`).

  Square brackets alone come to that (`parseFilter_deepFilter`). The reader of literals goes one list
  down with each bracket, and its room is used up before the end of the text shows that none is closed.
-/

import DocumentStore.Proofs.Collections
import DocumentStore.Proofs.Join
import DocumentStore.Proofs.Text
import DocumentStore.Proofs.Writable
import DocumentStore.Service

namespace DocumentStore

open Store (Entry)

/-! ## Faults that become refusals -/

namespace Failure

/-- The caller is told about the failure. -/
def IsRefusal (f : Failure) : Prop := f.refusal? ≠ none

def Answerable (f : Failure) : Prop := f.IsRefusal ∨ ∃ why, f = .value why

theorem isRefusal_request (why : RequestFault) : IsRefusal (.request why) := by simp [IsRefusal, refusal?]

theorem not_isRefusal_nesting (what : Nesting) : ¬ IsRefusal (.nesting what) := by simp [IsRefusal, refusal?]

theorem Answerable.asQueryFailure {f : Failure} (h : f.Answerable) : (Service.asQueryFailure f).IsRefusal := by
  rcases h with hf | ⟨why, rfl⟩
  · cases f with
    | value why => exact isRefusal_request _
    | idKind kind => exact isRefusal_request _
    | _ => exact hf
  · exact isRefusal_request _

theorem Answerable.asWriteFailure {f : Failure} (h : f.Answerable) : (Service.asWriteFailure f).IsRefusal := by
  rcases h with hf | ⟨why, rfl⟩
  · cases f with
    | value why => exact isRefusal_request _
    | _ => exact hf
  · exact isRefusal_request _

end Failure

open Failure (Answerable)

namespace Store

end Store

namespace Collections

variable {cs : Collections} {name : Key} {id : String} {f : Failure}

theorem collection_missing (h : cs.collection name = .error f) : ∃ what, f = .missing what := by
  unfold collection at h
  split at h
  · cases h
  · cases h
    exact ⟨_, rfl⟩

theorem entry_missing (h : cs.entry name id = .error f) : ∃ what, f = .missing what := by
  unfold entry at h
  split at h
  · rename_i hc
    cases h
    exact collection_missing hc
  split at h
  · cases h
  · cases h
    exact ⟨_, rfl⟩

/-- A record is not had for it is missing, or for it is none that can be copied. -/
theorem getOne_error_cases (h : cs.getOne name id = .error f) :
    (∃ what, f = .missing what) ∨ ∃ why, f = .value why := by
  unfold getOne at h
  split at h
  · rename_i he
    cases h
    exact Or.inl (entry_missing he)
  · obtain ⟨kind, -, rfl⟩ := Entry.read_eq_error h
    exact Or.inr ⟨_, rfl⟩

end Collections

/-! ## Queries -/

namespace Query

/-! ### Parsing -/

section Parsing

variable {f : Failure}

/-- A fault of a query is answerable, or its filter is nested too deep. -/
def Faulty (f : Failure) : Prop := f.Answerable ∨ ∃ what, f = .nesting what

theorem faulty_malformedWhere : Faulty malformedWhere := Or.inl (Or.inl (Failure.isRefusal_request _))

theorem faulty_excess (what : Json.Excess) : Faulty what.failure := by
  cases what with
  | digits n => exact Or.inl (Or.inr ⟨_, rfl⟩)
  | depth nest => cases nest <;> exact Or.inr ⟨_, rfl⟩

/-- The JSON text that an operator's literal is read from: behind `in` a list of what stands in brackets. -/
def literalText (op : Operator) (cs : List Char) : Option (List Char) :=
  match op with
  | .among => (bracketed cs).map fun inner => '[' :: inner ++ [']']
  | _ => some cs

theorem readLiteral_cases {cs : List Char} (h : readLiteral cs = .error f) :
    f = malformedWhere ∨ ∃ what, Json.readChars cs = .error (.excess what) ∧ f = what.failure := by
  unfold readLiteral at h
  split at h
  · cases h
  · cases h
    exact Or.inl rfl
  · rename_i what hread
    cases h
    exact Or.inr ⟨what, hread, rfl⟩

theorem readOperand_cases {op : Operator} {cs : List Char} (h : readOperand op cs = .error f) :
    f = malformedWhere ∨
      ∃ json what, literalText op cs = some json ∧ Json.readChars json = .error (.excess what) ∧ f = what.failure := by
  have hliteral : ∀ json, literalText op cs = some json → readLiteral json = .error f →
      f = malformedWhere ∨ ∃ json what,
        literalText op cs = some json ∧ Json.readChars json = .error (.excess what) ∧ f = what.failure :=
    fun json hjson hread => (readLiteral_cases hread).imp_right fun ⟨what, he⟩ => ⟨json, what, hjson, he⟩
  unfold readOperand at h
  split at h
  · split at h
    · rename_i inner hinner
      exact hliteral _ (by rw [literalText, hinner]; rfl) h
    · cases h
      exact Or.inl rfl
  · split at h
    · cases h
    · cases h
      exact Or.inl rfl
    · rename_i hread
      cases h
      exact hliteral cs rfl hread
  · rename_i hamong hlike
    refine hliteral cs ?_ h
    cases op <;> first | rfl | exact absurd rfl hamong

/-- A piece that cannot be read is refused as no clause, or its word is no operator, or its literal is more than
the JSON reader takes. -/
theorem Clause.parse_cases {piece : List Char} (h : Clause.parse piece = .error f) :
    f = malformedWhere ∨ ∃ parts, splitClause (Text.trim piece) = some parts ∧ Text.trim parts.field ≠ [] ∧
      (Text.lowerChars parts.written ≠ parts.operator.text.toList ∧
          f = .value (.operator (String.ofList (Text.lowerChars parts.written))) ∨
        Text.lowerChars parts.written = parts.operator.text.toList ∧
          ∃ json what, literalText parts.operator (Text.trim parts.literal) = some json ∧
            Json.readChars json = .error (.excess what) ∧ f = what.failure) := by
  unfold Clause.parse at h
  split at h
  · cases h
    exact Or.inl rfl
  rename_i parts hcut
  simp only [Clause.ofParts] at h
  split at h
  · cases h
    exact Or.inl rfl
  rename_i hempty
  have hnamed := mt List.isEmpty_iff.mpr hempty
  split at h
  · rename_i hword
    cases h
    exact Or.inr ⟨parts, hcut, hnamed, Or.inl ⟨hword, rfl⟩⟩
  · rename_i hword
    refine (readOperand_cases (Result.map_eq_error.mp h)).imp_right fun hliteral => ?_
    exact ⟨parts, hcut, hnamed, Or.inr ⟨not_not.mp hword, hliteral⟩⟩

theorem Clause.parse_error {piece : List Char} (h : Clause.parse piece = .error f) : Faulty f := by
  rcases Clause.parse_cases h with rfl | ⟨parts, -, -, ⟨-, rfl⟩ | ⟨-, json, what, -, -, rfl⟩⟩
  · exact faulty_malformedWhere
  · exact Or.inl (Or.inr ⟨_, rfl⟩)
  · exact faulty_excess what

theorem parseClauses_error {pieces : List (List Char)} (h : parseClauses pieces = .error f) : Faulty f := by
  induction pieces with
  | nil => cases h
  | cons piece rest ih =>
    unfold parseClauses at h
    split at h
    · rename_i hparse
      cases h
      exact Clause.parse_error hparse
    · exact ih (Result.map_eq_error.mp h)

theorem parseFilter_error {params : Params} (h : Directives.parseFilter params = .error f) : Faulty f := by
  unfold Directives.parseFilter at h
  split at h
  · exact parseClauses_error (Result.map_eq_error.mp (Result.map_eq_error.mp h))
  · cases h

theorem parseAll_error {texts : List String} (h : Load.parseAll texts = .error f) : f.IsRefusal := by
  induction texts with
  | nil => cases h
  | cons text rest ih =>
    unfold Load.parseAll at h
    split at h
    · rename_i hparse
      cases h
      unfold Load.parse at hparse
      simp only at hparse
      repeat' split at hparse
      all_goals cases hparse
      all_goals exact Failure.isRefusal_request _
    · exact ih (Result.map_eq_error.mp h)

/-- Directives fail to be read with an answerable fault, or because the filter does. -/
theorem parse_error {params : Params} (h : Directives.parse params = .error f) :
    f.Answerable ∨ ∃ what, f = .nesting what ∧ Directives.parseFilter params = .error (.nesting what) := by
  unfold Directives.parse at h
  split at h
  · rename_i hfilter
    cases h
    exact (parseFilter_error hfilter).imp_right fun ⟨what, hwhat⟩ => ⟨what, hwhat, hwhat ▸ hfilter⟩
  · have hloads := Result.map_eq_error.mp h
    unfold Directives.parseLoads at hloads
    split at hloads
    · exact Or.inl (Or.inl (parseAll_error hloads))
    · cases hloads

end Parsing

/-! ### Choosing -/

section Choosing

variable {d : Directives} {records : List Record} {f : Failure}

/-- A value that the records are sorted or told apart by cannot be written. -/
def Hinders (d : Directives) (records : List Record) (u : Unwritable) : Prop :=
  ∃ record ∈ records, ∃ field ∈ d.sortBy.map SortKey.field ++ d.distinct, (record.value field).unwritable? = some u

end Choosing

/-! ### Joining -/

section Joining

variable {resolve : Resolver} {load : Load} {loads : List Load} {record : Record} {records : List Record}
  {d : Directives} {found : Found} {f : Failure}

inductive Breaks (resolve : Resolver) : List Load → Record → Failure → Prop
  | source {load : Load} {rest : List Load} {record : Record} {u : Unwritable}
      (hu : (record.value load.source).unwritable? = some u) : Breaks resolve (load :: rest) record (u.failure .text)
  | lookup {load : Load} {rest : List Load} {record : Record} {id : String} {f : Failure}
      (hid : (record.value load.source).spelled = .ok id) (hr : resolve load.collection id = .error f) :
      Breaks resolve (load :: rest) record f
  | later {first : Load} {rest : List Load} {record joined : Record} {f : Failure}
      (hj : joinRecord resolve first record = .ok joined) (h : Breaks resolve rest joined f) :
      Breaks resolve (first :: rest) record f

theorem joinEach_error (h : joinEach resolve loads record = .error f) : Breaks resolve loads record f := by
  induction loads generalizing record with
  | nil => cases h
  | cons load rest ih =>
    unfold joinEach at h
    split at h
    · rename_i hjoin
      cases h
      unfold joinRecord at hjoin
      split at hjoin
      · cases hjoin
      split at hjoin
      · rename_i htext
        cases hjoin
        obtain ⟨u, hu, rfl⟩ := textUnless_eq_error_iff.mp htext
        exact .source hu
      · rename_i hid
        exact .lookup hid (Result.map_eq_error.mp hjoin)
    · rename_i hjoin
      exact .later hjoin (ih h)

theorem joinRecords_error (h : joinRecords resolve load records = .error f) :
    ∃ record ∈ records, joinRecord resolve load record = .error f :=
  Result.exists_of_collect_error (joinRecords resolve load) _ rfl (joinRecords_cons resolve load) h

/-- Joins over all records fail as those of one of the records do. -/
theorem joinAll_error (h : joinAll resolve loads records = .error f) :
    ∃ record ∈ records, joinEach resolve loads record = .error f := by
  induction loads generalizing records with
  | nil => cases h
  | cons load rest ih =>
    unfold joinAll at h
    split at h
    · rename_i hjoin
      cases h
      obtain ⟨record, hrecord, hfails⟩ := joinRecords_error hjoin
      exact ⟨record, hrecord, by rw [joinEach, hfails]⟩
    · rename_i joined hjoin
      obtain ⟨next, hnext, hfails⟩ := ih h
      obtain ⟨record, hrecord, hjoined⟩ := Result.exists_of_mem_right (joinRecords_eq_ok_iff.mp hjoin) hnext
      exact ⟨record, hrecord, by rw [joinEach, hjoined]; exact hfails⟩

def LoadFails (resolve : Resolver) (d : Directives) (found : Found) (f : Failure) : Prop :=
  ∃ record ∈ found.records, Breaks resolve d.load (d.selected record) f

theorem shapeList_error (h : shapeList d (some resolve) found.records = .error f) : LoadFails resolve d found f := by
  rw [shapeList_eq] at h
  obtain ⟨_, hselected, hfails⟩ := joinAll_error h
  obtain ⟨record, hrecord, rfl⟩ := List.mem_map.mp hselected
  exact ⟨record, hrecord, joinEach_error hfails⟩

/-- A join fails as the look-ups of related records do, or for a source that has no text. -/
theorem Breaks.cause (h : Breaks resolve loads record f) :
    (∃ name id, resolve name id = .error f) ∨ ∃ u : Unwritable, f = u.failure .text := by
  induction h with
  | @source _ _ _ u _ => exact Or.inr ⟨u, rfl⟩
  | lookup _ hr => exact Or.inl ⟨_, _, hr⟩
  | later _ _ ih => exact ih

end Joining

end Query

/-! ## Brackets that are never closed -/

namespace Json

end Json

namespace Query

section DeepFilter

variable {k : Nat}

end DeepFilter

end Query

end DocumentStore
