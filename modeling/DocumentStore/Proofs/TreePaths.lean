/-
  DocumentStore.Proofs.TreePaths — an operation on the tree touches the path it names, and no other.

  Two paths are apart if neither leads on from the other. An operation sets certain paths (`Sets`): a read
  finds there what was set, and what it found before on every path that is apart from them. Put and
  delete set their path, a patch one path below it for each member of its body, and a post the path of
  the new entry (`operations_set_their_paths`).

  All of them change the members of one object. A post may have to make it, and the objects on the way
  to it; what is made has nothing in it but the way on, so no read sees it from aside (`createAt_spec`).
  Where the object is there, changing it is the same as making it (`createAt_of_object`).
-/

import DocumentStore.Proofs.Named
import DocumentStore.Proofs.Result
import DocumentStore.Tree

namespace DocumentStore.Tree

/-! ## Paths -/

def Apart (p q : List String) : Prop := ¬ p <+: q ∧ ¬ q <+: p

instance (p q : List String) : Decidable (Apart p q) := inferInstanceAs (Decidable (_ ∧ _))

section Paths

variable {name : String} {p q : List String}

theorem Apart.ne_nil (h : Apart p q) : q ≠ [] := by
  rintro rfl
  exact h.2 List.nil_prefix

theorem not_apart_nil : ¬ Apart [] q := fun h => h.1 List.nil_prefix

theorem apart_cons : Apart (name :: p) (name :: q) ↔ Apart p q := by
  simp only [Apart, List.cons_prefix_cons, true_and]

/-- What is apart from a way on from `p` is apart from `p`, or leads on from it. -/
theorem Apart.cases_of_append {r : List String} (h : Apart (p ++ r) q) :
    Apart p q ∨ ∃ s, q = p ++ s ∧ Apart r s := by
  by_cases hp : p <+: q
  · obtain ⟨s, rfl⟩ := hp
    refine Or.inr ⟨s, rfl, ?_⟩
    simpa only [Apart, List.prefix_append_right_inj] using h
  · exact Or.inl ⟨hp, fun hq => h.2 (hq.trans (List.prefix_append p r))⟩

theorem apart_singleton : Apart [name] q ↔ ∃ other rest, q = other :: rest ∧ other ≠ name := by
  cases q with
  | nil => simp [Apart]
  | cons other rest =>
    simp only [Apart, List.cons_prefix_cons, List.nil_prefix, and_true, List.prefix_nil, List.cons.injEq]
    constructor
    · intro h
      exact ⟨other, rest, ⟨rfl, rfl⟩, fun he => h.1 he.symm⟩
    · rintro ⟨_, _, ⟨rfl, rfl⟩, hne⟩
      exact ⟨fun he => hne he.symm, fun he => hne he.1⟩

end Paths

/-! ## The walk of a post -/

section Walk

variable {members child : Record} {name : String} {p : List String} {f : Record → Record} {v : Value} {e : Failure}

/-- The walk goes on into the member, an empty object if there is none. -/
theorem descend_of_member (hchild : (members.get? name).getD (.object []) = .object child) :
    descend f members (name :: p) =
      ((descend f child p).1, members.put name (.object (descend f child p).2)) := by
  rw [descend]
  cases hget : members.get? name with
  | none =>
    obtain rfl : child = [] := by
      rw [hget] at hchild
      exact (Value.object.inj hchild).symm
    have hself := Keyed.get?_put_self members (beq_self_eq_true name) (.object [])
    have hhas : Keyed.has members name = false := by rw [Keyed.has, hget]; rfl
    simp only [hhas, Bool.false_eq_true, if_false, hself]
    rw [Keyed.put_put members (beq_self_eq_true name)]
  | some v =>
    obtain rfl : v = .object child := by rwa [hget] at hchild
    have hhas : Keyed.has members name = true := by rw [Keyed.has, hget]; rfl
    simp only [hhas, if_true, hget]

/-- The walk ends at a leaf, and has changed nothing. -/
theorem descend_of_leaf (hget : members.get? name = some v) (hleaf : ∀ child, v ≠ .object child) :
    descend f members (name :: p) = (.error (blocked p), members) := by
  have hhas : Keyed.has members name = true := by rw [Keyed.has, hget]; rfl
  rw [descend]
  simp only [hhas, if_true, hget]
  split
  · rename_i child hchild
    exact absurd (Option.some.inj hchild) (hleaf child)
  · rfl

/-- A name leads to an object, which is empty if nothing is there, or to a leaf. -/
theorem member_cases (members : Record) (name : String) :
    (∃ child, (members.get? name).getD (.object []) = .object child) ∨
      ∃ v, members.get? name = some v ∧ ∀ child, v ≠ .object child := by
  cases members.get? name with
  | none => exact Or.inl ⟨[], rfl⟩
  | some v =>
    cases v with
    | object child => exact Or.inl ⟨child, rfl⟩
    | _ => exact Or.inr ⟨_, rfl, nofun⟩

/-- Nothing is in the way of a walk where nothing is. -/
theorem descend_empty (f : Record → Record) (p : List String) : (descend f [] p).1 = .ok () := by
  induction p with
  | nil => rfl
  | cons name p ih =>
    rw [descend_of_member rfl]
    exact ih

/-- A walk that fails leaves all as it was. Before the leaf that it fails at it has made nothing, for behind what
it makes there is no leaf. -/
theorem descend_error (h : (descend f members p).1 = .error e) : (descend f members p).2 = members := by
  induction p generalizing members with
  | nil => cases h
  | cons name p ih =>
    rcases member_cases members name with ⟨child, hchild⟩ | ⟨v, hget, hleaf⟩
    · rw [descend_of_member hchild] at h ⊢
      cases hget : members.get? name with
      | none =>
        obtain rfl : [] = child := by simpa [hget] using hchild
        cases (descend_empty f p).symm.trans h
      | some v =>
        obtain rfl : v = .object child := by rwa [hget] at hchild
        dsimp only
        rw [ih h]
        exact Keyed.put_of_get? (fun _ => eq_of_beq) hget
    · rw [descend_of_leaf hget hleaf]

/-- The members as they are made by a walk that gets to the end of its path. -/
def createAt (f : Record → Record) (members : Record) (p : List String) : Except Failure Record :=
  (descend f members p).1.map fun _ => (descend f members p).2

/-- A post puts the body under the id that is drawn, if no leaf is on its way, or else does nothing. -/
theorem post_eq (tree : Tree) (p : List String) (members : Record) :
    tree.post p (.object members) =
      match createAt (·.put tree.ids.draw.1 (.object (Keyed.put members "_id" (.text tree.ids.draw.1)))) tree.root p with
      | .error f => (.error f, tree)
      | .ok root => (.ok (.object (Keyed.put members "_id" (.text tree.ids.draw.1))), ⟨root, tree.ids.draw.2⟩) := by
  rw [post, createAt]
  dsimp only
  generalize hwalk : descend _ tree.root p = walk
  obtain ⟨outcome, root⟩ := walk
  cases outcome with
  | ok => rfl
  | error f =>
    have hroot := descend_error (congrArg Prod.fst hwalk)
    rw [hwalk] at hroot
    dsimp only at hroot ⊢
    rw [hroot]
    rfl

end Walk

/-! ## What a path leads to -/

section Members

variable {members members' child : Record} {name : String} {p q : List String} {f : Record → Record}

theorem valueAt_cons (members : Record) (name : String) (p : List String) :
    valueAt (.object members) (name :: p) = (members.get? name).bind (valueAt · p) := by
  rw [valueAt]
  cases members.get? name <;> rfl

/-- The way into a member leads where it leads in what a path makes of it: an object with nothing in
it, if there is no such member. -/
theorem valueAt_member (hchild : (members.get? name).getD (.object []) = .object child) (hq : q ≠ []) :
    valueAt (.object members) (name :: q) = valueAt (.object child) q := by
  rw [valueAt_cons]
  cases hget : members.get? name with
  | some v =>
    rw [hget, Option.getD_some] at hchild
    rw [hchild, Option.bind_some]
  | none =>
    rw [hget, Option.getD_none, Value.object.injEq] at hchild
    subst hchild
    obtain ⟨n, rest, rfl⟩ := List.exists_cons_of_ne_nil hq
    rfl

theorem valueAt_append (v : Value) (p q : List String) : valueAt v (p ++ q) = (valueAt v p).bind (valueAt · q) := by
  induction p generalizing v with
  | nil => rfl
  | cons name p ih =>
    cases v with
    | object members =>
      rw [List.cons_append, valueAt_cons, valueAt_cons, Option.bind_assoc]
      simp only [ih]
    | _ => rfl

theorem createAt_of_member (hchild : (members.get? name).getD (.object []) = .object child) :
    createAt f members (name :: p) = (createAt f child p).map fun child => members.put name (.object child) := by
  rw [createAt, createAt, descend_of_member hchild]
  cases (descend f child p).1 <;> rfl

theorem createAt_cons (h : createAt f members (name :: p) = .ok members') :
    ∃ child child', (members.get? name).getD (.object []) = .object child ∧ createAt f child p = .ok child' ∧
      members' = members.put name (.object child') := by
  rcases member_cases members name with ⟨child, hchild⟩ | ⟨v, hget, hleaf⟩
  · rw [createAt_of_member hchild] at h
    obtain ⟨child', hcreate, rfl⟩ := Result.map_eq_ok.mp h
    exact ⟨child, child', hchild, hcreate, rfl⟩
  · rw [createAt, descend_of_leaf hget hleaf] at h
    cases h

/-- Objects are made up to the end of a path and the members of the last changed. Below it a read finds
what the change made of what was there before, and aside of it what it found before. -/
theorem createAt_spec (h : createAt f members p = .ok members') :
    ∃ child, (∀ q, q ≠ [] → valueAt (.object members) (p ++ q) = valueAt (.object child) q) ∧
      (∀ q, valueAt (.object members') (p ++ q) = valueAt (.object (f child)) q) ∧
      ∀ q, Apart p q → valueAt (.object members') q = valueAt (.object members) q := by
  induction p generalizing members members' with
  | nil =>
    cases h
    exact ⟨members, fun _ _ => rfl, fun _ => rfl, fun _ hq => absurd hq not_apart_nil⟩
  | cons name p ih =>
    obtain ⟨inner, inner', hinner, hcreate, rfl⟩ := createAt_cons h
    obtain ⟨child, hbefore, hafter, haside⟩ := ih hcreate
    have hself : ∀ q, valueAt (.object (members.put name (.object inner'))) (name :: q) = valueAt (.object inner') q := by
      intro q
      rw [valueAt_cons, Keyed.get?_put_self members (beq_self_eq_true name), Option.bind_some]
    refine ⟨child, fun q hq => ?_, fun q => ?_, fun q hq => ?_⟩
    · rw [List.cons_append, valueAt_member hinner (List.append_ne_nil_of_right_ne_nil p hq), hbefore q hq]
    · rw [List.cons_append, hself, hafter]
    · obtain ⟨other, rest, rfl⟩ := List.exists_cons_of_ne_nil hq.ne_nil
      by_cases hname : other = name
      · subst hname
        have hrest := apart_cons.mp hq
        rw [hself, haside rest hrest, valueAt_member hinner hrest.ne_nil]
      · rw [valueAt_cons, valueAt_cons, Keyed.get?_put_of_ne members hname]

/-- Where the object is there, it is changed and nothing need be made. -/
theorem createAt_of_object (h : valueAt (.object members) p = some (.object child)) :
    createAt f members p = .ok (changeAt f members p) := by
  induction p generalizing members with
  | nil => rfl
  | cons name p ih =>
    obtain ⟨v, hget, hv⟩ := Option.bind_eq_some_iff.mp (valueAt_cons members name p ▸ h)
    obtain ⟨inner, rfl⟩ : ∃ inner, v = .object inner := by
      cases p with
      | nil => exact ⟨child, Option.some.inj hv⟩
      | cons next p =>
        cases v with
        | object inner => exact ⟨inner, rfl⟩
        | _ => cases hv
    have hchild : (members.get? name).getD (.object []) = .object inner := by rw [hget]; rfl
    rw [createAt_of_member hchild, changeAt, hget, ih hv]
    rfl

/-- Changing nothing in an object changes nothing around it. -/
theorem changeAt_id (members : Record) (p : List String) : changeAt id members p = members := by
  induction p generalizing members with
  | nil => rfl
  | cons name p ih =>
    rw [changeAt]
    split
    · rename_i child hget
      obtain ⟨before, after, hmembers, -, hput⟩ := Keyed.exists_put (fun _ => eq_of_beq) hget
      rw [ih, hput, hmembers]
    · rfl

end Members

/-! ## Which paths can be made -/

/-- Every path to here leads to an object, if it leads anywhere. -/
def IsOpen (members : Record) (p : List String) : Prop :=
  ∀ q v, q <+: p → valueAt (.object members) q = some v → ∃ child, v = .object child

section Open

variable {members child : Record} {name : String} {p : List String} {f : Record → Record}

theorem isOpen_nil : IsOpen members [] := by
  intro q v hq hv
  obtain rfl := List.prefix_nil.mp hq
  cases hv
  exact ⟨members, rfl⟩

theorem isOpen_cons (hchild : (members.get? name).getD (.object []) = .object child) :
    IsOpen members (name :: p) ↔ IsOpen child p := by
  constructor
  · intro h q v hq hv
    cases q with
    | nil => exact isOpen_nil [] v List.prefix_rfl hv
    | cons n q =>
      refine h (name :: n :: q) v (List.cons_prefix_cons.mpr ⟨rfl, hq⟩) ?_
      rw [valueAt_member hchild (List.cons_ne_nil n q), hv]
  · intro h q v hq hv
    cases q with
    | nil => exact isOpen_nil [] v List.prefix_rfl hv
    | cons n q =>
      obtain ⟨rfl, hrest⟩ := List.cons_prefix_cons.mp hq
      cases q with
      | nil =>
        rw [valueAt_cons] at hv
        obtain ⟨w, hget, hw⟩ := Option.bind_eq_some_iff.mp hv
        cases hw
        rw [hget, Option.getD_some] at hchild
        exact ⟨child, hchild⟩
      | cons next q =>
        rw [valueAt_member hchild (List.cons_ne_nil next q)] at hv
        exact h _ v hrest hv

/-- The objects on a path can be made exactly if no leaf is in the way. -/
theorem createAt_ok_iff : (∃ members', createAt f members p = .ok members') ↔ IsOpen members p := by
  induction p generalizing members with
  | nil => exact ⟨fun _ => isOpen_nil, fun _ => ⟨f members, rfl⟩⟩
  | cons name p ih =>
    constructor
    · rintro ⟨members', h⟩
      obtain ⟨child, child', hchild, hcreate, -⟩ := createAt_cons h
      exact (isOpen_cons hchild).mpr (ih.mp ⟨child', hcreate⟩)
    · intro h
      obtain ⟨child, hchild⟩ : ∃ child, (members.get? name).getD (.object []) = .object child := by
        cases hget : members.get? name with
        | none => exact ⟨[], rfl⟩
        | some v =>
          obtain ⟨child, rfl⟩ := h [name] v (List.cons_prefix_cons.mpr ⟨rfl, List.nil_prefix⟩)
            (by rw [valueAt_cons, hget]; rfl)
          exact ⟨child, rfl⟩
      obtain ⟨child', hcreate⟩ := ih.mpr ((isOpen_cons hchild).mp h)
      exact ⟨members.put name (.object child'), by rw [createAt_of_member hchild, hcreate]; rfl⟩

end Open

/-! ## Setting paths -/

/-- After the changes each changed path leads where it was set to, to nothing if to none, and each path
that is apart from all of them where it led before. -/
structure Sets (before : Tree) (changes : List (List String × Option Value)) (after : Tree) : Prop where
  there : ∀ c ∈ changes, after.get c.1 = c.2
  elsewhere : ∀ q, (∀ c ∈ changes, Apart c.1 q) → after.get q = before.get q

section Sets

variable {tree tree' : Tree} {name : String} {p : List String} {f : Record → Record}
  {changes : List (String × Option Value)}

/-- A change to some names in the object at a path sets the paths that are one name longer. -/
theorem sets_of_createAt (h : createAt f tree.root p = .ok tree'.root) (hne : changes ≠ [])
    (hset : ∀ child, ∀ c ∈ changes, Keyed.get? (f child) c.1 = c.2)
    (hkeep : ∀ child n, (∀ c ∈ changes, n ≠ c.1) → Keyed.get? (f child) n = Keyed.get? child n) :
    tree.Sets (changes.map fun c => (p ++ [c.1], c.2)) tree' := by
  obtain ⟨child, hbefore, hafter, haside⟩ := createAt_spec h
  constructor
  · intro c hc
    obtain ⟨d, hd, rfl⟩ := List.mem_map.mp hc
    rw [get, hafter, valueAt_cons, hset child d hd]
    exact Option.bind_fun_some d.2
  · intro q hq
    have hapart : ∀ c ∈ changes, Apart (p ++ [c.1]) q := fun c hc => hq _ (List.mem_map_of_mem hc)
    obtain ⟨first, hfirst⟩ := List.exists_mem_of_ne_nil changes hne
    rcases (hapart first hfirst).cases_of_append with hp | ⟨s, rfl, hs⟩
    · exact haside q hp
    · obtain ⟨n, rest, rfl, -⟩ := apart_singleton.mp hs
      have hother : ∀ c ∈ changes, n ≠ c.1 := by
        intro c hc
        rcases (hapart c hc).cases_of_append with hp | ⟨s, hs, hapart⟩
        · exact absurd (List.prefix_append p (n :: rest)) hp.1
        · obtain rfl := List.append_cancel_left hs
          obtain ⟨other, _, he, hne⟩ := apart_singleton.mp hapart
          cases he
          exact hne
      rw [get, get, hafter, hbefore _ (List.cons_ne_nil n rest), valueAt_cons, valueAt_cons, hkeep child n hother]

/-- One name is set in the object at a path. -/
theorem sets_one {value : Option Value} (h : createAt f tree.root p = .ok tree'.root)
    (hset : ∀ child, Keyed.get? (f child) name = value)
    (hkeep : ∀ child n, n ≠ name → Keyed.get? (f child) n = Keyed.get? child n) :
    tree.Sets [(p ++ [name], value)] tree' := by
  have hne : [(name, value)] ≠ [] := List.cons_ne_nil _ _
  refine sets_of_createAt h hne ?_ ?_
  · intro child c hc
    obtain rfl := List.mem_singleton.mp hc
    exact hset child
  · intro child n hn
    exact hkeep child n (hn _ List.mem_cons_self)

end Sets

/-! ## The operations -/

section Operations

variable {tree : Tree} {p : List String} {old : Value} {members changes : Record}

/-- What holds the last name of a path that leads somewhere is an object. -/
theorem holder_of_get (hp : p ≠ []) (h : tree.get p = some old) :
    ∃ parent name child, p = parent ++ [name] ∧ tree.holder p = .ok (parent, name, some old) ∧
      tree.get parent = some (.object child) := by
  obtain ⟨parent, name, rfl⟩ : ∃ parent name, p = parent ++ [name] :=
    ⟨_, _, (List.dropLast_concat_getLast hp).symm⟩
  have hholder : tree.holder (parent ++ [name]) = .ok (parent, name, some old) := by
    rw [holder, List.getLast?_concat, List.dropLast_concat, h]
  refine ⟨parent, name, ?_⟩
  rw [get, valueAt_append] at h
  obtain ⟨v, hv, hname⟩ := Option.bind_eq_some_iff.mp h
  cases v with
  | object child => exact ⟨child, rfl, hholder, hv⟩
  | _ => cases hname

theorem put_sets (hp : p ≠ []) (h : tree.get p = some old) (body : Value) :
    (tree.put p body).1 = .ok (some body) ∧ tree.Sets [(p, some body)] (tree.put p body).2 := by
  obtain ⟨parent, name, child, rfl, hholder, hparent⟩ := holder_of_get hp h
  rw [put, hholder]
  refine ⟨rfl, sets_one (createAt_of_object hparent) (fun child => ?_) fun child n hn => ?_⟩
  · exact Keyed.get?_put_self child (beq_self_eq_true name) body
  · exact Keyed.get?_put_of_ne child hn body

theorem delete_sets (hp : p ≠ []) (h : tree.get p = some old) :
    (tree.delete p).1 = .ok (some old) ∧ tree.Sets [(p, none)] (tree.delete p).2 := by
  obtain ⟨parent, name, child, rfl, hholder, hparent⟩ := holder_of_get hp h
  rw [delete, hholder]
  refine ⟨rfl, sets_one (createAt_of_object hparent) (fun child => ?_) fun child n hn => ?_⟩
  · exact Keyed.get?_erase_self child name
  · exact Keyed.get?_erase_of_ne child hn

theorem patch_sets (h : tree.get p = some (.object members)) (hnames : (Keyed.names changes).Nodup) :
    (tree.patch p (.object changes)).1 = .ok (some (.object (Keyed.overlay members changes))) ∧
      tree.Sets (changes.map fun c => (p ++ [c.1], some c.2)) (tree.patch p (.object changes)).2 := by
  rw [patch, h]
  refine ⟨rfl, ?_⟩
  by_cases hne : changes = []
  · subst hne
    have hroot : changeAt (·.overlay []) tree.root p = tree.root := changeAt_id tree.root p
    exact ⟨fun c hc => absurd hc List.not_mem_nil, fun q _ => by simp only [get, hroot]⟩
  · have hsets : tree.Sets ((changes.map fun c => (c.1, some c.2)).map fun c => (p ++ [c.1], c.2))
        { tree with root := changeAt (·.overlay changes) tree.root p } := by
      refine sets_of_createAt (createAt_of_object h) (by simpa using hne) ?_ ?_
      · intro child c hc
        obtain ⟨d, hd, rfl⟩ := List.mem_map.mp hc
        rw [Keyed.get?_overlay hnames, Keyed.get?_of_mem hnames hd]
        rfl
      · intro child n hn
        exact Keyed.get?_overlay_of_forall_ne (fun c hc => (hn _ (List.mem_map_of_mem hc)).symm) child
    simpa only [List.map_map, Function.comp_def] using hsets

theorem post_ok_iff {body : Value} :
    (∃ entry, (tree.post p body).1 = .ok entry) ↔ (∃ members, body = .object members) ∧ IsOpen tree.root p := by
  cases body with
  | object members =>
    rw [post_eq, ← createAt_ok_iff (f := (·.put tree.ids.draw.1 _))]
    cases createAt (·.put tree.ids.draw.1 _) tree.root p with
    | error f => simp
    | ok root => simp
  | _ => simp [post]

theorem post_sets {body entry : Value} (h : (tree.post p body).1 = .ok entry) :
    ∃ members, body = .object members ∧ entry = .object (Keyed.put members "_id" (.text tree.ids.draw.1)) ∧
      tree.Sets [(p ++ [tree.ids.draw.1], some entry)] (tree.post p body).2 := by
  cases body with
  | object members =>
    rw [post_eq] at h ⊢
    refine ⟨members, rfl, ?_⟩
    split at h
    · cases h
    · rename_i root hcreate
      cases h
      refine ⟨rfl, sets_one hcreate (fun child => ?_) fun child n hn => ?_⟩
      · exact Keyed.get?_put_self child (beq_self_eq_true _) _
      · exact Keyed.get?_put_of_ne child hn _
  | _ => cases h

end Operations

/-- Put and delete, where there is something to put over or to delete, set the path that they name; a
patch of an object sets the paths that lead from it to what is patched; and a post, which goes through
exactly if no leaf is in its way, sets that of the new entry, whether or not there was one of its id. -/
theorem operations_set_their_paths (tree : Tree) (p : List String) (body : Value) :
    (p ≠ [] → ∀ old, tree.get p = some old →
      ((tree.put p body).1 = .ok (some body) ∧ tree.Sets [(p, some body)] (tree.put p body).2) ∧
        (tree.delete p).1 = .ok (some old) ∧ tree.Sets [(p, none)] (tree.delete p).2) ∧
    (∀ members changes, tree.get p = some (.object members) → body = .object changes →
      (Keyed.names changes).Nodup →
        (tree.patch p body).1 = .ok (some (.object (Keyed.overlay members changes))) ∧
          tree.Sets (changes.map fun c => (p ++ [c.1], some c.2)) (tree.patch p body).2) ∧
    ((∃ entry, (tree.post p body).1 = .ok entry) ↔
      (∃ members, body = .object members) ∧ IsOpen tree.root p) ∧
    ∀ entry, (tree.post p body).1 = .ok entry →
      ∃ members, body = .object members ∧ entry = .object (Keyed.put members "_id" (.text tree.ids.draw.1)) ∧
        tree.Sets [(p ++ [tree.ids.draw.1], some entry)] (tree.post p body).2 := by
  refine ⟨fun hp old h => ⟨put_sets hp h body, delete_sets hp h⟩, ?_, post_ok_iff, fun entry h => post_sets h⟩
  rintro members changes h rfl hnames
  exact patch_sets h hnames

/-! ### The limits among the settings -/

def settingsTree : Tree :=
  ⟨[("settings", .object [("theme", .text "dark"), ("limits", .object [("upload", .int 10)])])], .numbered ["n1"]⟩

def newLimits : Record := [("upload", .int 20), ("download", .int 5)]

/-- Whatever is done to the limits, the theme stays. -/
theorem operations_set_their_paths_limits :
    let limits := ["settings", "limits"]
    let theme := ["settings", "theme"]
    let body := Value.object newLimits
    limits ≠ [] ∧ settingsTree.get limits = some (.object [("upload", .int 10)]) ∧ (Keyed.names newLimits).Nodup ∧
      ((settingsTree.put limits body).2.get limits = some body ∧
        (settingsTree.put limits body).2.get theme = settingsTree.get theme) ∧
      ((settingsTree.delete limits).2.get limits = none ∧
        (settingsTree.delete limits).2.get theme = settingsTree.get theme) ∧
      ((settingsTree.patch limits body).2.get ["settings", "limits", "upload"] = some (.int 20) ∧
        (settingsTree.patch limits body).2.get theme = settingsTree.get theme) ∧
      ∃ entry, (settingsTree.post limits body).1 = .ok entry ∧
        (settingsTree.post limits body).2.get ["settings", "limits", "n1"] = some entry ∧
        (settingsTree.post limits body).2.get theme = settingsTree.get theme := by
  intro limits theme body
  have hget : settingsTree.get limits = some (.object [("upload", .int 10)]) := rfl
  have hnames : (Keyed.names newLimits).Nodup := by decide
  obtain ⟨hold, hpatch, -, hpost⟩ := operations_set_their_paths settingsTree limits body
  obtain ⟨⟨-, hput⟩, -, hdelete⟩ := hold (by decide) _ hget
  obtain ⟨-, hpatch⟩ := hpatch _ _ hget rfl hnames
  obtain ⟨-, -, -, hentry⟩ := hpost _ (rfl : (settingsTree.post limits body).1 = .ok _)
  exact ⟨by decide, hget, hnames,
    ⟨hput.there _ List.mem_cons_self, hput.elsewhere theme (by decide)⟩,
    ⟨hdelete.there _ List.mem_cons_self, hdelete.elsewhere theme (by decide)⟩,
    ⟨hpatch.there _ List.mem_cons_self, hpatch.elsewhere theme (by decide)⟩,
    _, rfl, hentry.there _ List.mem_cons_self, hentry.elsewhere theme (by decide)⟩

end DocumentStore.Tree
