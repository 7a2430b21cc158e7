/-
  DocumentStore.Proofs.TreeFailures — an operation on the tree does all that it is to do, or nothing.

  It comes to nothing in two ways. It is refused: a path or a body is not as it has to be, or a leaf is in its
  way. Or it finds nothing where there has to be something, and says so. Put, patch and delete find that out
  before they change the tree. A post walks and makes objects as it goes; but the walk makes none before the
  leaf that it fails at (`descend_error`).

  So the tree and its supply of ids are as before whenever an operation comes to nothing, and when it does is
  said by the tree, the path and the body (`operations_come_to_nothing`).
-/

import DocumentStore.Proofs.TreePaths

namespace DocumentStore.Tree

inductive Operation where
  | get
  | post
  | put
  | patch
  | delete
  deriving DecidableEq, Repr

/-- What an operation gives, if anything, and the tree after it; get and delete have no body. -/
def Operation.run (op : Operation) (tree : Tree) (path : List String) (body : Value) :
    Except Failure (Option Value) × Tree :=
  match op with
  | .get => (.ok (tree.get path), tree)
  | .post => ((tree.post path body).1.map some, (tree.post path body).2)
  | .put => tree.put path body
  | .patch => tree.patch path body
  | .delete => tree.delete path

/-- The value is no object, and not null, which counts as nothing. -/
def IsLeaf (v : Value) : Prop := v ≠ .null ∧ ∀ members, v ≠ .object members

def IsObject (v : Value) : Prop := ∃ members, v = .object members

/-- What an operation cannot do: go on without a path, take a body that is no object, or change a leaf or what would
be below one. -/
def Operation.IsRefused (tree : Tree) (path : List String) (body : Value) : Operation → Prop
  | .get => False
  | .post => ¬ (IsObject body ∧ IsOpen tree.root path)
  | .put => path = []
  | .patch => ¬ IsObject body ∨ ∃ v, tree.get path = some v ∧ IsLeaf v
  | .delete => path = []

/-- There is nothing at the path for an operation that may go there; a patch takes null for nothing. -/
def Operation.Misses (tree : Tree) (path : List String) (body : Value) : Operation → Prop
  | .get => tree.get path = none
  | .post => False
  | .put => path ≠ [] ∧ tree.get path = none
  | .patch => IsObject body ∧ (tree.get path).getD .null = .null
  | .delete => path ≠ [] ∧ tree.get path = none

inductive Operation.Comes (op : Operation) (tree : Tree) (path : List String) (body : Value) :
    Except Failure (Option Value) × Tree → Prop
  | refused (why : RequestFault) (h : op.IsRefused tree path body) :
      Comes op tree path body (.error (.request why), tree)
  | missed (h : op.Misses tree path body) : Comes op tree path body (.ok none, tree)
  | done (v : Value) (tree' : Tree) (hrefused : ¬ op.IsRefused tree path body) (hmisses : ¬ op.Misses tree path body) :
      Comes op tree path body (.ok (some v), tree')

section Operations

variable {tree : Tree} {path : List String} {body : Value} {f : Failure}

theorem not_isLeaf_of_object {members : Record} : ¬ IsLeaf (.object members) := fun h => h.2 members rfl

theorem Operation.Misses.not_isRefused {op : Operation} (h : op.Misses tree path body) :
    ¬ op.IsRefused tree path body := by
  cases op with
  | get => exact id
  | post => exact h.elim
  | put => exact h.1
  | delete => exact h.1
  | patch =>
    obtain ⟨hbody, hnull⟩ := h
    rintro (hno | ⟨v, hv, hleaf⟩)
    · exact hno hbody
    · rw [hv] at hnull
      exact hleaf.1 hnull

theorem blocked_request (path : List String) : ∃ why, blocked path = .request why := by
  cases path <;> exact ⟨_, rfl⟩

theorem descend_error_request {g : Record → Record} {members : Record} (h : (descend g members path).1 = .error f) :
    ∃ why, f = .request why := by
  induction path generalizing members with
  | nil => cases h
  | cons name path ih =>
    rcases member_cases members name with ⟨child, hchild⟩ | ⟨v, hget, hleaf⟩
    · rw [descend_of_member hchild] at h
      exact ih h
    · rw [descend_of_leaf hget hleaf] at h
      cases h
      exact blocked_request path

theorem post_error (h : (tree.post path body).1 = .error f) :
    (tree.post path body).2 = tree ∧ ∃ why, f = .request why := by
  cases body with
  | object members =>
    rw [post_eq] at h ⊢
    split at h
    · rename_i hcreate
      cases h
      exact ⟨rfl, descend_error_request (Result.map_eq_error.mp hcreate)⟩
    · cases h
  | _ =>
    cases h
    exact ⟨rfl, _, rfl⟩

theorem post_comes (tree : Tree) (path : List String) (body : Value) :
    Operation.post.Comes tree path body (Operation.post.run tree path body) := by
  have hok : (∃ entry, (tree.post path body).1 = .ok entry) ↔ IsObject body ∧ IsOpen tree.root path := post_ok_iff
  rw [Operation.run]
  cases hpost : (tree.post path body).1 with
  | ok entry => exact .done entry _ (not_not_intro (hok.mp ⟨entry, hpost⟩)) id
  | error f =>
    obtain ⟨htree, why, rfl⟩ := post_error hpost
    rw [htree]
    refine .refused why fun h => ?_
    obtain ⟨entry, hentry⟩ := hok.mpr h
    cases hpost.symm.trans hentry

/-- There is no path, or the last name of it is there, or it is not. -/
theorem holder_cases (tree : Tree) (path : List String) :
    (path = [] ∧ tree.holder path = .error (.request .noPath)) ∨
      ∃ parent name, path ≠ [] ∧ tree.holder path = .ok (parent, name, tree.get path) := by
  unfold holder
  cases hlast : path.getLast? with
  | none => exact Or.inl ⟨List.getLast?_eq_none_iff.mp hlast, rfl⟩
  | some name => exact Or.inr ⟨_, name, fun h => by simp [h] at hlast, rfl⟩

theorem put_comes (tree : Tree) (path : List String) (body : Value) :
    Operation.put.Comes tree path body (tree.put path body) := by
  rw [put]
  rcases holder_cases tree path with ⟨hpath, hholder⟩ | ⟨parent, name, hpath, hholder⟩
  · rw [hholder]
    exact .refused _ hpath
  · rw [hholder]
    cases hget : tree.get path with
    | none => exact .missed ⟨hpath, hget⟩
    | some old => exact .done body _ hpath fun h => Option.some_ne_none old (hget.symm.trans h.2)

theorem delete_comes (tree : Tree) (path : List String) (body : Value) :
    Operation.delete.Comes tree path body (tree.delete path) := by
  rw [delete]
  rcases holder_cases tree path with ⟨hpath, hholder⟩ | ⟨parent, name, hpath, hholder⟩
  · rw [hholder]
    exact .refused _ hpath
  · rw [hholder]
    cases hget : tree.get path with
    | none => exact .missed ⟨hpath, hget⟩
    | some old => exact .done old _ hpath fun h => Option.some_ne_none old (hget.symm.trans h.2)

theorem null_or_object_or_leaf (v : Value) : v = .null ∨ IsObject v ∨ IsLeaf v := by
  by_cases hnull : v = .null
  · exact Or.inl hnull
  · by_cases hobject : IsObject v
    · exact Or.inr (Or.inl hobject)
    · exact Or.inr (Or.inr ⟨hnull, fun members h => hobject ⟨members, h⟩⟩)

theorem patch_of_leaf {v : Value} (hget : tree.get path = some v) (hleaf : IsLeaf v) (changes : Record) :
    tree.patch path (.object changes) = (.error (.request .mergeLeaf), tree) := by
  simp only [patch, hget]
  split
  · rename_i hnone
    cases hnone
  · rename_i hnull
    exact absurd (Option.some.inj hnull) hleaf.1
  · rename_i members hobject
    exact absurd (Option.some.inj hobject) (hleaf.2 members)
  · rfl

theorem patch_of_not_object (h : ¬ IsObject body) : tree.patch path body = (.error (.request .bodyShape), tree) := by
  unfold patch
  split
  · rename_i changes
    exact absurd ⟨changes, rfl⟩ h
  · rfl

theorem patch_comes (tree : Tree) (path : List String) (body : Value) :
    Operation.patch.Comes tree path body (tree.patch path body) := by
  by_cases hbody : IsObject body
  · obtain ⟨changes, rfl⟩ := hbody
    have hmissed : (tree.get path).getD .null = .null → Operation.patch.Misses tree path (.object changes) :=
      fun h => ⟨⟨changes, rfl⟩, h⟩
    cases hget : tree.get path with
    | none =>
      rw [patch, hget]
      exact .missed (hmissed (by rw [hget]; rfl))
    | some v =>
      rcases null_or_object_or_leaf v with rfl | ⟨members, rfl⟩ | hleaf
      · rw [patch, hget]
        exact .missed (hmissed (by rw [hget]; rfl))
      · rw [patch, hget]
        refine .done _ _ ?_ fun h => ?_
        · rintro (hno | ⟨v, hv, hleaf⟩)
          · exact hno ⟨changes, rfl⟩
          · cases hget.symm.trans hv
            exact not_isLeaf_of_object hleaf
        · have hnull := h.2
          rw [hget] at hnull
          cases hnull
      · rw [patch_of_leaf hget hleaf]
        exact .refused _ (Or.inr ⟨v, hget, hleaf⟩)
  · rw [patch_of_not_object hbody]
    exact .refused _ (Or.inl hbody)

/-- Every operation comes out in one of the three ways. -/
theorem comes (op : Operation) (tree : Tree) (path : List String) (body : Value) :
    op.Comes tree path body (op.run tree path body) := by
  cases op with
  | get =>
    rw [Operation.run]
    cases hget : tree.get path with
    | none => exact .missed hget
    | some v => exact .done v tree id fun h => Option.some_ne_none v (hget.symm.trans h)
  | post => exact post_comes tree path body
  | put => exact put_comes tree path body
  | patch => exact patch_comes tree path body
  | delete => exact delete_comes tree path body

/-- An operation fails exactly if it is refused, as a malformed request, and finds nothing exactly if there is nothing
for it to find. Both times the tree and its supply of ids are what they were. -/
theorem operations_come_to_nothing (op : Operation) (tree : Tree) (path : List String) (body : Value) :
    let result := (op.run tree path body).1
    let tree' := (op.run tree path body).2
    ((∃ f, result = .error f) ↔ op.IsRefused tree path body) ∧
    (∀ f, result = .error f → ∃ why, f = .request why) ∧
    (result = .ok none ↔ op.Misses tree path body) ∧
    ((∃ f, result = .error f) ∨ result = .ok none → tree' = tree) := by
  have hcomes := comes op tree path body
  generalize op.run tree path body = outcome at hcomes ⊢
  cases hcomes with
  | refused why h =>
    exact ⟨⟨fun _ => h, fun _ => ⟨_, rfl⟩⟩, fun f hf => ⟨why, (Except.error.inj hf).symm⟩,
      ⟨nofun, fun hmisses => absurd h hmisses.not_isRefused⟩, fun _ => rfl⟩
  | missed h =>
    exact ⟨⟨nofun, fun hrefused => absurd hrefused h.not_isRefused⟩, nofun, ⟨fun _ => h, fun _ => rfl⟩, fun _ => rfl⟩
  | done v after hrefused hmisses =>
    exact ⟨⟨nofun, fun h => absurd h hrefused⟩, nofun, ⟨nofun, fun h => absurd h hmisses⟩, nofun⟩

end Operations

end DocumentStore.Tree
