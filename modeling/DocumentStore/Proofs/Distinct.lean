/-
  DocumentStore.Proofs.Distinct — one record of each combination of values.

  A record is kept if its key is that of no record before it, those that were not kept included
  (`firstOfEach_eq`). Its key is the texts of the listed fields with two colons between each two, and all
  records have one exactly if all these values can be written. Then of the records that have the same values in
  these fields the first is kept at most; but it is left out too if its texts are other ones that are joined to
  the same key, and exactly such records are missing (`distinctRecords_firsts`).

  The joined texts say which texts they are if none but the last holds two colons in a row, or a colon at its
  end (`eq_of_intercalate`).
-/

import DocumentStore.Proofs.SortOrder
import DocumentStore.Query.Narrow
import Mathlib.Data.List.Infix

namespace DocumentStore

namespace Query

/-! ## The first of each kind -/

section Firsts

variable {α : Type} {R S : α → α → Prop} [DecidableRel R] [DecidableRel S]

def IsFirst (R : α → α → Prop) (as : List α) (a : α) (i : Nat) : Prop := ∀ b ∈ as.take i, ¬ R b a

instance (as : List α) (a : α) (i : Nat) : Decidable (IsFirst R as a i) := inferInstanceAs (Decidable (∀ b ∈ _, ¬ R b a))

/-- The members of a list to which no member before them is related, in their order. -/
def firsts (R : α → α → Prop) [DecidableRel R] (as : List α) : List α :=
  (as.zipIdx.filter fun p => IsFirst R as p.1 p.2).map Prod.fst

omit [DecidableRel R] [DecidableRel S] in
theorem IsFirst.of_imp (hsub : ∀ a b, S a b → R a b) {as : List α} {a : α} {i : Nat} (h : IsFirst R as a i) :
    IsFirst S as a i := fun b hb hs => h b hb (hsub b a hs)

theorem firsts_sublist (hsub : ∀ a b, S a b → R a b) (as : List α) : (firsts R as).Sublist (firsts S as) := by
  refine (List.monotone_filter_right _ fun p hp => ?_).map _
  exact decide_eq_true ((of_decide_eq_true hp).of_imp hsub)

/-- Under relations of which one holds wherever the other does, the first members are the same exactly if each
first one under the narrower relation is one under the wider. -/
theorem firsts_eq_iff (hsub : ∀ a b, S a b → R a b) (as : List α) :
    firsts R as = firsts S as ↔ ∀ p ∈ as.zipIdx, IsFirst S as p.1 p.2 → IsFirst R as p.1 p.2 := by
  constructor
  · intro h
    have hwithin : (as.zipIdx.filter fun p => IsFirst S as p.1 p.2).filter (fun p => IsFirst R as p.1 p.2) =
        as.zipIdx.filter fun p => IsFirst R as p.1 p.2 := by
      rw [List.filter_filter]
      refine List.filter_congr fun p hp => ?_
      rw [Bool.and_eq_left_iff_imp, decide_eq_true_eq, decide_eq_true_eq]
      exact IsFirst.of_imp hsub
    have hlength := congrArg List.length h
    rw [firsts, firsts, List.length_map, List.length_map, ← hwithin, List.length_filter_eq_length_iff] at hlength
    intro p hp hs
    exact of_decide_eq_true (hlength p (List.mem_filter.mpr ⟨hp, decide_eq_true hs⟩))
  · intro h
    rw [firsts, firsts]
    refine congrArg _ (List.filter_congr fun p hp => ?_)
    rw [decide_eq_decide]
    exact ⟨IsFirst.of_imp hsub, h p hp⟩

end Firsts

section Keys

variable {checked : Record → Except Failure String} {key : Record → String} {before records kept : List Record}
  {seen : List String}

/-- Where records have keys, one is kept if its key is that of no record before it. -/
theorem firstOfEach_eq (hkey : ∀ r ∈ records, checked r = .ok (key r))
    (hseen : ∀ r, key r ∈ seen ↔ ∃ s ∈ before, key s = key r) :
    firstOfEach checked seen records =
      .ok (((records.zipIdx before.length).filter fun p =>
        IsFirst (fun s r => key s = key r) (before ++ records) p.1 p.2).map Prod.fst) := by
  induction records generalizing before seen with
  | nil => rfl
  | cons r rest ih =>
    obtain ⟨hr, hkeys⟩ := List.forall_mem_cons.mp hkey
    have hhere : IsFirst (fun s r => key s = key r) (before ++ r :: rest) r before.length ↔ key r ∉ seen := by
      rw [IsFirst, List.take_left, hseen]
      simp
    have hrest : ∀ seen', (∀ x, key x ∈ seen' ↔ ∃ s ∈ before ++ [r], key s = key x) →
        firstOfEach checked seen' rest = .ok (((rest.zipIdx (before.length + 1)).filter fun p =>
          IsFirst (fun s r => key s = key r) (before ++ r :: rest) p.1 p.2).map Prod.fst) := by
      intro seen' h
      rw [ih hkeys h, List.length_append, List.append_assoc]
      rfl
    rw [firstOfEach, hr, List.zipIdx_cons]
    dsimp only
    split
    · rename_i hmem
      rw [List.filter_cons_of_neg (by simpa [hhere] using hmem)]
      refine hrest seen fun x => ?_
      obtain ⟨s, hs, he⟩ := (hseen r).mp hmem
      rw [hseen]
      simp only [List.mem_append, List.mem_singleton]
      constructor
      · rintro ⟨s, hs, he⟩
        exact ⟨s, Or.inl hs, he⟩
      · rintro ⟨s', hs' | rfl, he'⟩
        · exact ⟨s', hs', he'⟩
        · exact ⟨s, hs, he.trans he'⟩
    · rename_i hmem
      rw [List.filter_cons_of_pos (by simpa [hhere] using hmem), List.map_cons]
      refine congrArg (Except.map (r :: ·)) (hrest _ fun x => ?_)
      rw [List.mem_cons, hseen]
      simp only [List.mem_append, List.mem_singleton]
      constructor
      · rintro (he | ⟨s, hs, he⟩)
        · exact ⟨r, Or.inr rfl, he.symm⟩
        · exact ⟨s, Or.inl hs, he⟩
      · rintro ⟨s, hs | rfl, he⟩
        · exact Or.inr ⟨s, hs, he⟩
        · exact Or.inl he.symm

theorem checked_of_firstOfEach (h : firstOfEach checked seen records = .ok kept) :
    ∀ r ∈ records, ∃ k, checked r = .ok k := by
  induction records generalizing seen kept with
  | nil => exact List.forall_mem_nil _
  | cons r rest ih =>
    unfold firstOfEach at h
    split at h
    · cases h
    rename_i k hk
    refine List.forall_mem_cons.mpr ⟨⟨k, hk⟩, ?_⟩
    split at h
    · exact ih h
    · obtain ⟨others, hothers, -⟩ := Result.map_eq_ok.mp h
      exact ih hothers

def plainKey (fields : List String) (r : Record) : String :=
  String.intercalate "::" (fields.map fun field => plainText (r.value field))

def IsWritable (fields : List String) (r : Record) : Prop := ∀ field ∈ fields, (r.value field).unwritable? = none

theorem fieldTexts_eq_ok_iff {fields : List String} {r : Record} {texts : List String} :
    fieldTexts r fields = .ok texts ↔ IsWritable fields r ∧ texts = fields.map fun field => plainText (r.value field) := by
  induction fields generalizing texts with
  | nil => simp [fieldTexts, IsWritable, eq_comm]
  | cons field rest ih =>
    rw [IsWritable, List.forall_mem_cons, fieldTexts, keyText_eq]
    cases hu : (r.value field).unwritable? with
    | some u => simp
    | none =>
      simp only [Result.map_eq_ok, ih, true_and, List.map_cons]
      constructor
      · rintro ⟨_, ⟨hall, rfl⟩, rfl⟩
        exact ⟨hall, rfl⟩
      · rintro ⟨hall, rfl⟩
        exact ⟨_, ⟨hall, rfl⟩, rfl⟩

theorem distinctKey_eq_ok_iff {fields : List String} {r : Record} {k : String} :
    distinctKey fields r = .ok k ↔ IsWritable fields r ∧ k = plainKey fields r := by
  rw [distinctKey, Result.map_eq_ok]
  constructor
  · rintro ⟨texts, htexts, rfl⟩
    obtain ⟨hall, rfl⟩ := fieldTexts_eq_ok_iff.mp htexts
    exact ⟨hall, rfl⟩
  · rintro ⟨hall, rfl⟩
    exact ⟨_, fieldTexts_eq_ok_iff.mpr ⟨hall, rfl⟩, rfl⟩

def SameKey (fields : List String) (r s : Record) : Prop := plainKey fields r = plainKey fields s

def SameValues (fields : List String) (r s : Record) : Prop := ∀ field ∈ fields, r.value field = s.value field

instance (fields : List String) : DecidableRel (SameKey fields) := fun _ _ => inferInstanceAs (Decidable (_ = _))

instance (fields : List String) : DecidableRel (SameValues fields) := fun _ _ =>
  inferInstanceAs (Decidable (∀ field ∈ fields, _))

/-- Records come through exactly if all have keys, and those are kept then whose key no record before them has. -/
theorem distinctRecords_eq_ok_iff {fields : List String} :
    distinctRecords fields records = .ok kept ↔
      (∀ r ∈ records, IsWritable fields r) ∧ kept = firsts (SameKey fields) records := by
  have hnone : ∀ r, plainKey fields r ∈ [] ↔ ∃ s ∈ ([] : List Record), plainKey fields s = plainKey fields r := by simp
  constructor
  · intro h
    have hall : ∀ r ∈ records, IsWritable fields r := fun r hr => by
      obtain ⟨k, hk⟩ := checked_of_firstOfEach h r hr
      exact (distinctKey_eq_ok_iff.mp hk).1
    have hkeys := firstOfEach_eq (fun r hr => distinctKey_eq_ok_iff.mpr ⟨hall r hr, rfl⟩) hnone
    exact ⟨hall, Except.ok.inj (h.symm.trans hkeys)⟩
  · rintro ⟨hall, rfl⟩
    exact firstOfEach_eq (fun r hr => distinctKey_eq_ok_iff.mpr ⟨hall r hr, rfl⟩) hnone

theorem SameValues.sameKey {fields : List String} {r s : Record} (h : SameValues fields r s) : SameKey fields r s := by
  have htexts : (fields.map fun field => plainText (r.value field)) = fields.map fun field => plainText (s.value field) :=
    List.map_congr_left fun field hf => by rw [h field hf]
  rw [SameKey, plainKey, plainKey, htexts]

end Keys

/-! ## Joined texts -/

/-- The text holds no two colons in a row, and would not with a colon behind it. -/
def IsClear (cs : List Char) : Prop := ¬ [':', ':'] <:+: cs ++ [':']

instance (cs : List Char) : Decidable (IsClear cs) := inferInstanceAs (Decidable (¬ _))

section Texts

variable {a b c x y : List Char}

/-- Behind a clear text the first two colons in a row are the separator. -/
theorem eq_nil_of_isClear (hclear : IsClear (a ++ c)) (h : ':' :: ':' :: x = c ++ ':' :: ':' :: y) : c = [] := by
  match c, h with
  | [], _ => rfl
  | [_], h =>
    cases h
    exact absurd ⟨a, [], by simp⟩ hclear
  | _ :: _ :: c, h =>
    cases h
    exact absurd ⟨a, c ++ [':'], by simp⟩ hclear

theorem eq_of_isClear (ha : IsClear a) (hb : IsClear b) (h : a ++ ':' :: ':' :: x = b ++ ':' :: ':' :: y) :
    a = b ∧ x = y := by
  rcases List.append_eq_append_iff.mp h with ⟨c, rfl, hc⟩ | ⟨c, rfl, hc⟩
  · obtain rfl := eq_nil_of_isClear hb hc
    cases hc
    exact ⟨(List.append_nil a).symm, rfl⟩
  · obtain rfl := eq_nil_of_isClear ha hc
    cases hc
    exact ⟨List.append_nil b, rfl⟩

/-- As many texts are joined to one text only if they are the same, if all but the last are clear. -/
theorem eq_of_intercalate {ts us : List (List Char)} (hlength : ts.length = us.length)
    (hts : ∀ t ∈ ts.dropLast, IsClear t) (hus : ∀ u ∈ us.dropLast, IsClear u)
    (h : [':', ':'].intercalate ts = [':', ':'].intercalate us) : ts = us := by
  induction ts generalizing us with
  | nil => exact (List.eq_nil_of_length_eq_zero hlength.symm).symm
  | cons t ts ih =>
    obtain ⟨u, us, rfl⟩ := List.exists_cons_of_length_eq_add_one hlength.symm
    cases ts with
    | nil =>
      obtain rfl := List.eq_nil_of_length_eq_zero (Nat.succ.inj hlength).symm
      simpa using h
    | cons t' ts =>
      obtain ⟨u', us, rfl⟩ := List.exists_cons_of_length_eq_add_one (Nat.succ.inj hlength).symm
      rw [List.dropLast_cons_cons, List.forall_mem_cons] at hts hus
      rw [List.intercalate_cons_cons, List.intercalate_cons_cons, List.append_assoc, List.append_assoc] at h
      obtain ⟨rfl, hrest⟩ := eq_of_isClear hts.1 hus.1 h
      rw [ih (Nat.succ.inj hlength) hts.2 hus.2 hrest]

end Texts

/-- The record has a text in each of the fields, in all but the last a clear one. -/
structure HasClearTexts (fields : List String) (r : Record) : Prop where
  texts : ∀ field ∈ fields, ∃ s, r.get? field = some (.text s)
  clear : ∀ field ∈ fields.dropLast, IsClear (plainText (r.value field)).toList

section Records

variable {fields : List String} {r s : Record}

theorem toList_plainKey (fields : List String) (r : Record) :
    (plainKey fields r).toList =
      [':', ':'].intercalate (fields.map fun field => (plainText (r.value field)).toList) := by
  rw [plainKey, String.toList_intercalate, List.map_map]
  rfl

/-- Texts can be written. -/
theorem HasClearTexts.isWritable (hr : HasClearTexts fields r) : IsWritable fields r := fun field hfield => by
  obtain ⟨t, ht⟩ := hr.texts field hfield
  rw [Record.value, ht]
  rfl

theorem HasClearTexts.sameValues (hr : HasClearTexts fields r) (hs : HasClearTexts fields s) (h : SameKey fields r s) :
    SameValues fields r s := by
  have hclear : ∀ {x}, HasClearTexts fields x →
      ∀ t ∈ (fields.map fun field => (plainText (x.value field)).toList).dropLast, IsClear t := by
    intro x hx t ht
    rw [← List.map_dropLast] at ht
    obtain ⟨field, hfield, rfl⟩ := List.mem_map.mp ht
    exact hx.clear field hfield
  have hjoined := congrArg String.toList h
  rw [toList_plainKey, toList_plainKey] at hjoined
  have htexts := eq_of_intercalate (by simp) (hclear hr) (hclear hs) hjoined
  intro field hfield
  obtain ⟨t, ht⟩ := hr.texts field hfield
  obtain ⟨u, hu⟩ := hs.texts field hfield
  have hsame := List.map_inj_left.mp htexts field hfield
  rw [String.toList_inj, Record.value, Record.value, ht, hu] at hsame
  rw [Record.value, Record.value, ht, hu]
  exact congrArg Value.text hsame

end Records

/-- Records come through if all values of the fields can be written, and only then. A record is kept exactly if no
record before it is joined to its key. So no two records with the same values in the fields are kept, and the first
one with its values is, unless some record before it with other values is joined to the same key. None is, and all
come through, if all records have clear texts in the fields. -/
theorem distinctRecords_firsts (fields : List String) (records : List Record) :
    ((∃ kept, distinctRecords fields records = .ok kept) ↔ ∀ r ∈ records, IsWritable fields r) ∧
    (∀ kept, distinctRecords fields records = .ok kept →
      kept = firsts (SameKey fields) records ∧
      kept.Sublist (firsts (SameValues fields) records) ∧
      (kept = firsts (SameValues fields) records ↔ ∀ i r, records[i]? = some r →
        IsFirst (SameValues fields) records r i → IsFirst (SameKey fields) records r i)) ∧
    ((∀ r ∈ records, HasClearTexts fields r) →
      distinctRecords fields records = .ok (firsts (SameValues fields) records)) := by
  have hsub : ∀ r s, SameValues fields r s → SameKey fields r s := fun _ _ h => h.sameKey
  have hiff : firsts (SameKey fields) records = firsts (SameValues fields) records ↔
      ∀ i r, records[i]? = some r → IsFirst (SameValues fields) records r i → IsFirst (SameKey fields) records r i := by
    rw [firsts_eq_iff hsub]
    simp only [Prod.forall, List.mk_mem_zipIdx_iff_getElem?]
    exact ⟨fun h i r => h r i, fun h r i => h i r⟩
  refine ⟨⟨?_, fun hall => ⟨_, distinctRecords_eq_ok_iff.mpr ⟨hall, rfl⟩⟩⟩, fun kept h => ?_, fun hclear => ?_⟩
  · rintro ⟨kept, h⟩
    exact (distinctRecords_eq_ok_iff.mp h).1
  · obtain ⟨-, rfl⟩ := distinctRecords_eq_ok_iff.mp h
    exact ⟨rfl, firsts_sublist hsub records, hiff⟩
  · refine distinctRecords_eq_ok_iff.mpr ⟨fun r hr => (hclear r hr).isWritable, (hiff.mpr ?_).symm⟩
    intro i r hr hfirst s hs hkey
    have hmem := hclear r (List.mem_of_getElem? hr)
    exact hfirst s hs ((hclear s (List.mem_of_mem_take hs)).sameValues hmem hkey)

/-! ### Series and titles -/

def inSeries (series title : String) : Record := [("series", .text series), ("title", .text title)]

/-- The third book is the first one once more. -/
def serials : List Record := [inSeries "Dune" "Dune: Messiah", inSeries "Emma" "", inSeries "Dune" "Dune: Messiah"]

theorem hasClearTexts_serials : ∀ r ∈ serials, HasClearTexts ["series", "title"] r := by
  have hclear : ∀ series title, IsClear series.toList → HasClearTexts ["series", "title"] (inSeries series title) := by
    intro series title hseries
    refine ⟨List.forall_mem_cons.mpr ⟨⟨series, rfl⟩, List.forall_mem_singleton.mpr ⟨title, rfl⟩⟩, ?_⟩
    exact List.forall_mem_singleton.mpr hseries
  have hdune := hclear "Dune" "Dune: Messiah" (by decide)
  exact List.forall_mem_cons.mpr ⟨hdune, List.forall_mem_cons.mpr ⟨hclear "Emma" "" (by decide),
    List.forall_mem_singleton.mpr hdune⟩⟩

theorem distinctRecords_firsts_serials :
    (∀ r ∈ serials, HasClearTexts ["series", "title"] r) ∧
      distinctRecords ["series", "title"] serials = .ok (firsts (SameValues ["series", "title"]) serials) ∧
      firsts (SameValues ["series", "title"]) serials = serials.take 2 :=
  ⟨hasClearTexts_serials, (distinctRecords_firsts _ serials).2.2 hasClearTexts_serials, by decide⟩

def colonBooks : List Record := [inSeries "Dune" "Messiah::1", inSeries "Dune::Messiah" "1"]

/-- The second book has another series and another title than the first, and is left out. -/
theorem joined_combination_is_lost :
    distinctRecords ["series", "title"] colonBooks = .ok (colonBooks.take 1) ∧
      firsts (SameValues ["series", "title"]) colonBooks = colonBooks := by
  refine ⟨?_, by decide⟩
  cbv

end Query

end DocumentStore
