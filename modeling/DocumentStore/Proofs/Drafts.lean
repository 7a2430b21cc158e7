/-
  DocumentStore.Proofs.Drafts — which drafts are accepted, and what becomes of them.

  A draft is accepted exactly if all that stands in it is plain: no foreign value anywhere, and no object that
  names a member by anything but a text (`check_isOk_iff`). What becomes of it is the draft with its tuples made
  lists and all else, the order of members too, left as it is (`ofValue_of_check`). That is a value, in which there
  are no tuples any more (`ne_tuple_of_holds_ofValue`), so it would be accepted as it is.
-/

import DocumentStore.Proofs.Entry

namespace DocumentStore.Draft

/-! ## What stands in a draft -/

/-- What stands directly in a draft: the items of a list or a tuple, or the values of members. -/
def inner : Draft → List Draft
  | .list items => items
  | .tuple items => items
  | .object members => members.map (·.2)
  | _ => []

inductive Holds : Draft → Draft → Prop
  | self (d : Draft) : Holds d d
  | inner {d c part : Draft} (hc : c ∈ d.inner) (h : Holds c part) : Holds d part

/-- A draft that is itself of a kind that is accepted; of an object its names are looked at, and no more of what
stands in it. -/
inductive IsPlain : Draft → Prop
  | null : IsPlain .null
  | bool (b : Bool) : IsPlain (.bool b)
  | int (n : Int) : IsPlain (.int n)
  | float (x : Decimal.Binary64) : IsPlain (.float x)
  | text (s : String) : IsPlain (.text s)
  | list (items : List Draft) : IsPlain (.list items)
  | tuple (items : List Draft) : IsPlain (.tuple items)
  | object {members : List (Key × Draft)} (hnames : ∀ f ∈ members, ∃ name, f.1 = .text name) : IsPlain (.object members)

def AllPlain (d : Draft) : Prop := ∀ part, d.Holds part → part.IsPlain

section AllPlain

variable {d : Draft} {items : List Draft} {members : List (Key × Draft)}

/-- All is plain in a draft if it is plain itself and all is plain in what stands directly in it. -/
theorem allPlain_iff : d.AllPlain ↔ d.IsPlain ∧ ∀ c ∈ d.inner, c.AllPlain := by
  constructor
  · intro h
    exact ⟨h d (.self d), fun c hc part hpart => h part (.inner hc hpart)⟩
  · rintro ⟨hself, hinner⟩ part hpart
    cases hpart with
    | self => exact hself
    | inner hc hpart => exact hinner _ hc part hpart

theorem allPlain_leaf (hleaf : d.inner = []) : d.AllPlain ↔ d.IsPlain := by
  rw [allPlain_iff, hleaf]
  exact and_iff_left (List.forall_mem_nil _)

theorem allPlain_list : (Draft.list items).AllPlain ↔ ∀ d ∈ items, d.AllPlain :=
  allPlain_iff.trans (and_iff_right (.list items))

theorem allPlain_tuple : (Draft.tuple items).AllPlain ↔ ∀ d ∈ items, d.AllPlain :=
  allPlain_iff.trans (and_iff_right (.tuple items))

theorem allPlain_object :
    (Draft.object members).AllPlain ↔ ∀ f ∈ members, (∃ name, f.1 = .text name) ∧ f.2.AllPlain := by
  have hnames : (Draft.object members).IsPlain ↔ ∀ f ∈ members, ∃ name, f.1 = .text name :=
    ⟨fun | .object h => h, .object⟩
  rw [allPlain_iff, hnames, inner, List.forall_mem_map]
  exact forall₂_and.symm

end AllPlain

/-! ## What is accepted -/

mutual

/-- A draft is accepted exactly if all that stands in it is plain. -/
theorem check_isOk_iff : (d : Draft) → ((∃ v, d.check = .ok v) ↔ d.AllPlain)
  | .null => iff_of_true ⟨_, rfl⟩ ((allPlain_leaf rfl).mpr .null)
  | .bool b => iff_of_true ⟨_, rfl⟩ ((allPlain_leaf rfl).mpr (.bool b))
  | .int n => iff_of_true ⟨_, rfl⟩ ((allPlain_leaf rfl).mpr (.int n))
  | .float x => iff_of_true ⟨_, rfl⟩ ((allPlain_leaf rfl).mpr (.float x))
  | .text s => iff_of_true ⟨_, rfl⟩ ((allPlain_leaf rfl).mpr (.text s))
  | .list items => by
    rw [allPlain_list, ← checkItems_isOk_iff items, check, Result.exists_map_eq_ok]
  | .tuple items => by
    rw [allPlain_tuple, ← checkItems_isOk_iff items, check, Result.exists_map_eq_ok]
  | .object members => by
    rw [allPlain_object, ← checkMembers_isOk_iff members, check, Result.exists_map_eq_ok]
  | .foreign kind spelled => by
    rw [allPlain_leaf rfl]
    exact iff_of_false (by rintro ⟨_, ⟨⟩⟩) (by rintro ⟨⟩)

theorem checkItems_isOk_iff : (ds : List Draft) → ((∃ vs, checkItems ds = .ok vs) ↔ ∀ d ∈ ds, d.AllPlain)
  | [] => by simp [checkItems]
  | d :: ds => by
    rw [List.forall_mem_cons, ← check_isOk_iff d, ← checkItems_isOk_iff ds, checkItems]
    cases d.check with
    | error e => simp
    | ok v => simp [Result.exists_map_eq_ok]

theorem checkMembers_isOk_iff : (ms : List (Key × Draft)) →
    ((∃ record, checkMembers ms = .ok record) ↔ ∀ f ∈ ms, (∃ name, f.1 = .text name) ∧ f.2.AllPlain)
  | [] => by simp [checkMembers]
  | (key, d) :: ms => by
    rw [List.forall_mem_cons, ← check_isOk_iff d, ← checkMembers_isOk_iff ms]
    cases key with
    | text name =>
      rw [checkMembers]
      cases d.check with
      | error e => simp
      | ok v => simp [Result.exists_map_eq_ok]
    | _ => simp [checkMembers]

end

theorem checkRecord_eq_ok_iff {d : Draft} {record : Record} :
    d.checkRecord = .ok record ↔ d.check = .ok (.object record) := by
  cases d with
  | object members =>
    rw [checkRecord, check, Result.map_eq_ok]
    simp
  | list items => simp [checkRecord, check, Result.map_eq_ok]
  | tuple items => simp [checkRecord, check, Result.map_eq_ok]
  | _ => simp [checkRecord, check]

/-- A record is accepted exactly if it is an object in which all is plain. -/
theorem checkRecord_isOk_iff {d : Draft} :
    (∃ record, d.checkRecord = .ok record) ↔ (∃ members, d = .object members) ∧ d.AllPlain := by
  rw [← check_isOk_iff]
  cases d with
  | object members => simp [checkRecord, check, Result.exists_map_eq_ok]
  | _ => simp [checkRecord]

/-! ## What becomes of it -/

mutual

/-- The draft with every tuple in it made a list. -/
def untupled : Draft → Draft
  | .list items => .list (untupledItems items)
  | .tuple items => .list (untupledItems items)
  | .object members => .object (untupledMembers members)
  | d => d

def untupledItems : List Draft → List Draft
  | [] => []
  | d :: ds => untupled d :: untupledItems ds

def untupledMembers : List (Key × Draft) → List (Key × Draft)
  | [] => []
  | (key, d) :: ms => (key, untupled d) :: untupledMembers ms

end

mutual

/-- What is accepted is the draft, with lists for its tuples. -/
theorem ofValue_of_check : {d : Draft} → {v : Value} → d.check = .ok v → ofValue v = d.untupled
  | .null, _, h => by cases h; rfl
  | .bool _, _, h => by cases h; rfl
  | .int _, _, h => by cases h; rfl
  | .float _, _, h => by cases h; rfl
  | .text _, _, h => by cases h; rfl
  | .list items, _, h => by
    rw [check] at h
    obtain ⟨vs, hvs, rfl⟩ := Result.map_eq_ok.mp h
    rw [ofValue, untupled, ofItems_of_check hvs]
  | .tuple items, _, h => by
    rw [check] at h
    obtain ⟨vs, hvs, rfl⟩ := Result.map_eq_ok.mp h
    rw [ofValue, untupled, ofItems_of_check hvs]
  | .object members, _, h => by
    rw [check] at h
    obtain ⟨record, hrecord, rfl⟩ := Result.map_eq_ok.mp h
    rw [ofValue, untupled, ofMembers_of_check hrecord]
  | .foreign _ _, _, h => by cases h

theorem ofItems_of_check : {ds : List Draft} → {vs : List Value} → checkItems ds = .ok vs → ofItems vs = untupledItems ds
  | [], _, h => by cases h; rfl
  | d :: ds, _, h => by
    rw [checkItems] at h
    split at h
    · cases h
    rename_i v hv
    obtain ⟨vs, hvs, rfl⟩ := Result.map_eq_ok.mp h
    rw [ofItems, untupledItems, ofValue_of_check hv, ofItems_of_check hvs]

theorem ofMembers_of_check : {ms : List (Key × Draft)} → {record : Record} → checkMembers ms = .ok record →
    ofMembers record = untupledMembers ms
  | [], _, h => by cases h; rfl
  | (key, d) :: ms, _, h => by
    cases key with
    | text name =>
      rw [checkMembers] at h
      split at h
      · cases h
      rename_i v hv
      obtain ⟨record, hrecord, rfl⟩ := Result.map_eq_ok.mp h
      rw [ofMembers, untupledMembers, ofValue_of_check hv, ofMembers_of_check hrecord]
    | _ => cases h

end

theorem exists_of_mem_ofItems {vs : List Value} {d : Draft} (h : d ∈ ofItems vs) : ∃ v, d = ofValue v := by
  induction vs with
  | nil => exact absurd h List.not_mem_nil
  | cons v vs ih =>
    rcases List.mem_cons.mp h with rfl | h
    · exact ⟨v, rfl⟩
    · exact ih h

theorem exists_of_mem_inner {v : Value} {d : Draft} (h : d ∈ (ofValue v).inner) : ∃ w, d = ofValue w := by
  cases v with
  | list vs => exact exists_of_mem_ofItems h
  | object ms =>
    obtain ⟨f, hf, rfl⟩ := List.mem_map.mp h
    obtain ⟨name, w, rfl⟩ := exists_of_mem_ofMembers hf
    exact ⟨w, rfl⟩
  | _ => exact absurd h List.not_mem_nil

/-- In a value there stand values. -/
theorem exists_of_holds_ofValue {v : Value} {part : Draft} (h : (ofValue v).Holds part) : ∃ w, part = ofValue w := by
  generalize hd : ofValue v = d at h
  induction h generalizing v with
  | self d => exact ⟨v, hd.symm⟩
  | inner hc _ ih =>
    rw [← hd] at hc
    obtain ⟨w, rfl⟩ := exists_of_mem_inner hc
    exact ih rfl

theorem ne_tuple_of_holds_ofValue {v : Value} {part : Draft} (h : (ofValue v).Holds part) (items : List Draft) :
    part ≠ .tuple items := by
  obtain ⟨w, rfl⟩ := exists_of_holds_ofValue h
  cases w <;> exact Draft.noConfusion

/-- A draft is accepted exactly if all that stands in it is of a kind that a value may be, with tuples besides, and
every member is named by a text. What becomes of it is the draft itself but for its tuples, which are lists
now; no tuple is left in it, and it would be accepted as it is. As a record a draft is accepted exactly if it is an
object besides, and it becomes the same. -/
theorem drafts_are_accepted_as_json (d : Draft) :
    ((∃ v, d.check = .ok v) ↔ ∀ part, d.Holds part → part.IsPlain) ∧
    (∀ v, d.check = .ok v → ofValue v = d.untupled ∧
      (∀ part, (ofValue v).Holds part → ∀ items, part ≠ .tuple items) ∧ (ofValue v).check = .ok v) ∧
    ((∃ record, d.checkRecord = .ok record) ↔
      (∃ members, d = .object members) ∧ ∀ part, d.Holds part → part.IsPlain) ∧
    ∀ record, d.checkRecord = .ok record ↔ d.check = .ok (.object record) :=
  ⟨check_isOk_iff d,
    fun v hv => ⟨ofValue_of_check hv, fun _ hpart => ne_tuple_of_holds_ofValue hpart, check_ofValue v⟩,
    checkRecord_isOk_iff, fun _ => checkRecord_eq_ok_iff⟩

/-! ### A shelf of pairs -/

def pairs : Draft :=
  .object [(.text "pairs", .list [.tuple [.int 1, .text "x"], .tuple []]), (.text "_id", .null)]

/-- The pairs become lists in their places. -/
theorem drafts_are_accepted_as_json_pairs :
    pairs.check = .ok (.object [("pairs", .list [.list [.int 1, .text "x"], .list []]), ("_id", .null)]) ∧
      (∀ part, pairs.Holds part → part.IsPlain) ∧
      pairs.untupled = .object [(.text "pairs", .list [.list [.int 1, .text "x"], .list []]), (.text "_id", .null)] ∧
      pairs.checkRecord = .ok [("pairs", .list [.list [.int 1, .text "x"], .list []]), ("_id", .null)] := by
  obtain ⟨haccepted, hbecomes, -, hrecord⟩ := drafts_are_accepted_as_json pairs
  have hcheck : pairs.check = .ok (.object [("pairs", .list [.list [.int 1, .text "x"], .list []]), ("_id", .null)]) :=
    rfl
  exact ⟨hcheck, haccepted.mp ⟨_, hcheck⟩, (hbecomes _ hcheck).1.symm, (hrecord _).mpr hcheck⟩

/-- A name that is no text is found within a pair, and reported before the value under it. -/
example : (Draft.list [.tuple [.null, .object [(.int 1, .foreign "set" "{1}")]]]).check = .error (.name "int") := rfl

end DocumentStore.Draft
