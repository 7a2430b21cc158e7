/-
  DocumentStore.Proofs.Override — what the admin override does to the rules of single fields.

  The override lets a call pass that its rule would refuse. The rules of single fields are
  then decided once more, on a context in which the override stands too, and role rules look
  at it. So between two calls that differ in the override alone:
  - `decide_override`: a field rule decides the same, but for a nameless caller and a role
    rule for users, which the override lets pass.
  - `override_hides`: the override hides just the fields that are hidden without it, less the
    fields with such a rule if nobody calls. The two agree exactly if there is none.
  - `override_opens_users_field`: a field that only users may read, read by nobody.
-/

import Mathlib
import DocumentStore.Proofs.Document
import DocumentStore.Proofs.Gate
import DocumentStore.Proofs.Writable

namespace DocumentStore.Rule

/-- Whether a role rule is for users and not for guests. -/
def isForUsers : Rule → Bool
  | .roles rs => rs.contains .user && !rs.contains .guest
  | _ => false

def denies (ctx : Context) (rule : Rule) : Bool :=
  match rule.decide false ctx with
  | .ok false => true
  | _ => false

def Context.withOverride (ctx : Context) (isAdmin : Bool) : Context := { ctx with isAdmin }

/-! ## One rule -/

theorem holds_override {p : Predicate} (hp : p.builtInName?.isSome = true) (ctx : Context) (b : Bool) :
    p.holds (ctx.withOverride b) = p.holds ctx := by
  cases p with
  | custom test => cases hp
  | _ => rfl

theorem decideRoles_override (rs : List Role) (ctx : Context) :
    decideRoles rs false (ctx.withOverride true) =
      if ctx.user.isNone && (roles rs).isForUsers then .ok true
      else decideRoles rs false (ctx.withOverride false) := by
  obtain ⟨user, data, newData, isAdmin, lookup⟩ := ctx
  simp only [decideRoles, Context.withOverride, isForUsers]
  rcases Bool.eq_false_or_eq_true (rs.contains .guest) with hg | hg
  · simp only [hg, Bool.not_true, Bool.and_false, Bool.false_eq_true, if_false, if_true]
  · rcases Bool.eq_false_or_eq_true (rs.contains .user) with hu | hu
    · simp only [hg, hu]
      cases user <;> rfl
    · simp only [hg, hu]
      cases user <;> rfl

/-- The override changes the decision on a field for a nameless caller and a rule for users,
and for nothing else. -/
theorem decide_override {rule : Rule} (hb : rule.isBuiltIn = true) (ctx : Context) :
    rule.decide false (ctx.withOverride true) =
      if ctx.user.isNone && rule.isForUsers then .ok true
      else rule.decide false (ctx.withOverride false) := by
  cases rule with
  | roles rs => exact decideRoles_override rs ctx
  | named name negated p =>
    have hp : p.builtInName?.isSome = true := hb
    simp only [decide, isForUsers, Bool.and_false, Bool.false_eq_true, if_false]
    rw [holds_override hp, holds_override hp]
  | _ =>
    simp only [isForUsers, Bool.and_false, Bool.false_eq_true, if_false]
    rfl

/-- A rule on built-in predicates fails by asking for a caller, where nobody calls, or for want of a text. -/
theorem decide_error {rule : Rule} (hb : rule.isBuiltIn = true) {strict : Bool} {ctx : Context} {f : Failure}
    (h : rule.decide strict ctx = .error f) :
    (f = .unauthorized ∧ strict = true ∧ ctx.user = none ∧ ctx.isAdmin = false) ∨
      ∃ u, ctx.LacksText u ∧ f = u.failure .text := by
  have howner : ctx.owns (ownerIn ctx.data) = .error f → ∃ u, ctx.LacksText u ∧ f = u.failure .text := fun h => by
    obtain ⟨id, u, hid, hu, hf⟩ | ⟨o, u, ho, hu, hf⟩ := owns_error h
    · exact ⟨u, .user hid hu, hf⟩
    · exact ⟨u, .owner ho hu, hf⟩
  cases rule with
  | roles rs =>
    rw [decide, decideRoles] at h
    split at h
    · cases h
    split at h
    · rename_i hnobody
      rw [Bool.and_eq_true, Option.isNone_iff_eq_none, Bool.not_eq_true'] at hnobody
      split at h
      · rename_i hstrict
        cases h
        exact Or.inl ⟨rfl, hstrict, hnobody⟩
      · cases h
    split at h
    · cases h
    split at h
    · exact Or.inr (howner h)
    · cases h
  | owner => exact Or.inr (howner h)
  | named name negated p =>
    have h : p.holds ctx = .error f := Result.map_eq_error.mp h
    cases p with
    | isOwner => exact Or.inr (howner h)
    | isNewOwner =>
      obtain ⟨id, u, hid, hu, hf⟩ | ⟨o, u, ho, hu, hf⟩ := owns_error h
      · exact Or.inr ⟨u, .user hid hu, hf⟩
      · exact Or.inr ⟨u, .newOwner ho hu, hf⟩
    | custom test => cases hb
    | _ => cases h
  | _ => cases h

/-- What a rule decides on a call without the override, it decides with it. -/
theorem decide_strict_override {rule : Rule} (hb : rule.isBuiltIn = true) {ctx : Context}
    (h : rule.decide true (ctx.withOverride false) = .ok true) : rule.decide true (ctx.withOverride true) = .ok true := by
  cases rule with
  | roles rs =>
    obtain ⟨user, data, newData, isAdmin, lookup⟩ := ctx
    simp only [decide, decideRoles, Context.withOverride] at h ⊢
    by_cases hguest : rs.contains .guest = true
    · rw [if_pos hguest]
    · rw [if_neg hguest] at h ⊢
      cases user with
      | none => cases h
      | some user => exact h
  | named name negated p =>
    have hp : p.builtInName?.isSome = true := hb
    rw [decide, holds_override hp] at h ⊢
    exact h
  | _ => exact h

theorem denies_iff {ctx : Context} {rule : Rule} : denies ctx rule = true ↔ rule.decide false ctx = .ok false := by
  unfold denies
  split
  · rename_i h
    simp [h]
  · rename_i h
    simpa using h

/-- A rule for users denies a nameless caller without the override. -/
theorem denies_of_isForUsers {rule : Rule} (h : rule.isForUsers = true) {ctx : Context}
    (hu : ctx.user = none) (ha : ctx.isAdmin = false) : denies ctx rule = true := by
  rw [denies_iff]
  cases rule with
  | roles rs =>
    simp only [isForUsers, Bool.and_eq_true, Bool.not_eq_true'] at h
    simp only [decide, decideRoles, h.2, hu, ha]
    rfl
  | _ => cases h

/-! ## All field rules of a call -/

def denying (ctx : Context) (fields : Named Rule) : Named Rule := fields.filter fun f => denies ctx f.2

/-- The denied fields are known if every rule decides. -/
theorem deniedFields_eq_ok_iff {ctx : Context} {fields : Named Rule} {hidden : List String} :
    deniedFields ctx fields = .ok hidden ↔
      (∀ f ∈ fields, (f.2.decide false ctx).isOk = true) ∧ hidden = (denying ctx fields).names := by
  induction fields generalizing hidden with
  | nil =>
    constructor
    · rintro ⟨⟩
      exact ⟨List.forall_mem_nil _, rfl⟩
    · rintro ⟨-, rfl⟩
      rfl
  | cons f rest ih =>
    rw [List.forall_mem_cons]
    cases hd : f.2.decide false ctx with
    | error g => simp [deniedFields, hd, Except.isOk, Except.toBool]
    | ok b =>
      have hkeep : (denying ctx (f :: rest)).names = if b then (denying ctx rest).names
          else f.1 :: (denying ctx rest).names := by
        cases b <;> simp [denying, denies, hd, Keyed.names]
      rw [hkeep]
      cases b with
      | true => simpa [deniedFields, hd, Except.isOk, Except.toBool] using ih
      | false =>
        simp only [deniedFields, hd, Result.map_eq_ok, ih, Except.isOk, Except.toBool, true_and, Bool.false_eq_true,
          if_false]
        constructor
        · rintro ⟨_, ⟨hall, rfl⟩, rfl⟩
          exact ⟨hall, rfl⟩
        · rintro ⟨hall, rfl⟩
          exact ⟨_, ⟨hall, rfl⟩, rfl⟩

theorem exists_of_deniedFields_error {ctx : Context} {fields : Named Rule} {f : Failure}
    (h : deniedFields ctx fields = .error f) : ∃ g ∈ fields, g.2.decide false ctx = .error f := by
  induction fields with
  | nil => cases h
  | cons g rest ih =>
    rw [deniedFields] at h
    have hlater : deniedFields ctx rest = .error f → ∃ g' ∈ g :: rest, g'.2.decide false ctx = .error f := fun h => by
      obtain ⟨g', hg', hd⟩ := ih h
      exact ⟨g', List.mem_cons_of_mem g hg', hd⟩
    split at h
    · rename_i hd
      cases h
      exact ⟨g, List.mem_cons_self, hd⟩
    · exact hlater h
    · exact hlater (Result.map_eq_error.mp h)

/-- What the override leaves of the fields denied without it. -/
def keptByOverride (ctx : Context) (f : String × Rule) : Bool := !(ctx.user.isNone && f.2.isForUsers)

theorem denies_override {rule : Rule} (hb : rule.isBuiltIn = true) (ctx : Context) (field : String) :
    denies (ctx.withOverride true) rule =
      (keptByOverride ctx (field, rule) && denies (ctx.withOverride false) rule) := by
  unfold denies keptByOverride
  rw [decide_override hb]
  cases ctx.user.isNone && rule.isForUsers <;> rfl

theorem keptByOverride_iff {ctx : Context} {field : String} {rule : Rule} :
    keptByOverride ctx (field, rule) = true ↔ ¬ (ctx.user = none ∧ rule.isForUsers = true) := by
  unfold keptByOverride
  rw [Bool.not_eq_true', ← Bool.not_eq_true, Bool.and_eq_true, Option.isNone_iff_eq_none]

theorem isOk_override {rule : Rule} (hb : rule.isBuiltIn = true) (ctx : Context) :
    (rule.decide false (ctx.withOverride true)).isOk = (rule.decide false (ctx.withOverride false)).isOk := by
  rw [decide_override hb]
  split
  · rename_i hopens
    rw [Bool.and_eq_true, Option.isNone_iff_eq_none] at hopens
    have hdenies : denies (ctx.withOverride false) rule = true := denies_of_isForUsers hopens.2 hopens.1 rfl
    rw [denies_iff.mp hdenies]
    rfl
  · rfl

/-- With the override the denied fields are known if they are without it, and are then those that it leaves. -/
theorem deniedFields_override {ctx : Context} {fields : Named Rule} (hb : ∀ f ∈ fields, f.2.isBuiltIn = true)
    {hidden : List String} :
    deniedFields (ctx.withOverride true) fields = .ok hidden ↔
      deniedFields (ctx.withOverride false) fields = .ok (denying (ctx.withOverride false) fields).names ∧
        hidden = Keyed.names ((denying (ctx.withOverride false) fields).filter (keptByOverride ctx)) := by
  have hfilter : denying (ctx.withOverride true) fields =
      (denying (ctx.withOverride false) fields).filter (keptByOverride ctx) := by
    rw [denying, denying, List.filter_filter]
    exact List.filter_congr fun f hf => denies_override (hb f hf) ctx f.1
  have hok : (∀ f ∈ fields, (f.2.decide false (ctx.withOverride true)).isOk = true) ↔
      ∀ f ∈ fields, (f.2.decide false (ctx.withOverride false)).isOk = true :=
    forall₂_congr fun f hf => by rw [isOk_override (hb f hf)]
  rw [deniedFields_eq_ok_iff, deniedFields_eq_ok_iff, hfilter, hok, and_iff_left rfl]

theorem mem_kept {ctx : Context} {fields : Named Rule} {field : String} :
    field ∈ Keyed.names ((denying (ctx.withOverride false) fields).filter (keptByOverride ctx)) ↔
      ∃ rule, (field, rule) ∈ fields ∧ rule.decide false (ctx.withOverride false) = .ok false ∧
        ¬ (ctx.user = none ∧ rule.isForUsers = true) := by
  constructor
  · intro h
    obtain ⟨⟨name, rule⟩, hm, rfl⟩ := List.mem_map.mp h
    obtain ⟨hm, hkept⟩ := List.mem_filter.mp hm
    obtain ⟨hm, hden⟩ := List.mem_filter.mp hm
    exact ⟨rule, hm, denies_iff.mp hden, keptByOverride_iff.mp hkept⟩
  · rintro ⟨rule, hm, hden, hkept⟩
    have hden : (field, rule) ∈ denying (ctx.withOverride false) fields :=
      List.mem_filter.mpr ⟨hm, denies_iff.mpr hden⟩
    exact List.mem_map.mpr ⟨(field, rule), List.mem_filter.mpr ⟨hden, keptByOverride_iff.mpr hkept⟩, rfl⟩

/-- The override keeps all denied fields exactly if somebody calls or no rule is for users. -/
theorem kept_eq_denied_iff {ctx : Context} {fields : Named Rule} :
    Keyed.names ((denying (ctx.withOverride false) fields).filter (keptByOverride ctx)) =
        (denying (ctx.withOverride false) fields).names ↔
      ctx.user ≠ none ∨ ∀ f ∈ fields, f.2.isForUsers = false := by
  constructor
  · intro h
    by_cases hu : ctx.user = none
    · refine Or.inr fun f hf => ?_
      cases hfor : f.2.isForUsers with
      | false => rfl
      | true =>
        have hlen := congrArg List.length h
        rw [Keyed.names, Keyed.names, List.length_map, List.length_map,
          List.length_filter_eq_length_iff] at hlen
        have hmem : f ∈ denying (ctx.withOverride false) fields :=
          List.mem_filter.mpr ⟨hf, denies_of_isForUsers hfor hu rfl⟩
        have := hlen f hmem
        simp [keptByOverride, hu, hfor] at this
    · exact Or.inl hu
  · intro h
    rw [List.filter_eq_self.mpr]
    intro f hf
    rcases h with hu | hno
    · obtain ⟨user, hu⟩ := Option.ne_none_iff_exists'.mp hu
      simp [keptByOverride, hu]
    · simp [keptByOverride, hno f (List.mem_filter.mp hf).1]

namespace Engine

variable {engine : Engine}

/-- A call with the override fails where an id or an owner that is asked for has no text, and nowhere else. -/
theorem gate_override_error (hplain : engine.rules.Forall fun rule => rule.isBuiltIn = true) {caller : Caller}
    (hadmin : caller.isAdmin = true) {action : Action} {collection : Option String} {data : Option Record}
    {newData : Option Draft.Members} {f : Failure}
    (h : engine.gate caller action collection data newData = .error f) :
    Record.idOf data = .error f ∨ ∃ u, (engine.contextFor caller data newData).LacksText u ∧ f = u.failure .text := by
  obtain hid | ⟨resolved, hresolve, hcase⟩ := gate_eq_error h
  · exact Or.inl hid
  obtain ⟨hrule, hfields⟩ := forall_resolve hplain rfl hresolve
  rcases hcase with hdecide | ⟨hno, -⟩ | hdenied
  · rcases decide_error hrule hdecide with ⟨-, -, -, hno⟩ | hlacks
    · cases hadmin.symm.trans hno
    · exact Or.inr hlacks
  · cases hadmin.symm.trans hno
  · obtain ⟨g, hg, hdecide⟩ := exists_of_deniedFields_error hdenied
    rcases decide_error (hfields g hg) hdecide with ⟨-, hstrict, -⟩ | hlacks
    · cases hstrict
    · exact Or.inr hlacks

section Override

variable {user : Option Record} {token : Option String} {action : Action} {collection : Option String}
  {data : Option Record} {newData : Option Draft.Members}

/-- With the override a call passes if it passes without. -/
theorem gate_override_of_gate (hplain : engine.rules.Forall fun rule => rule.isBuiltIn = true) {passed : List String}
    (h : engine.gate ⟨user, false, token⟩ action collection data newData = .ok passed) :
    ∃ hidden, engine.gate ⟨user, true, token⟩ action collection data newData = .ok hidden := by
  obtain ⟨resolved, hresolve, hallowed | hno, hdenied⟩ := gate_ok h
  · obtain ⟨hrule, hfields⟩ := forall_resolve hplain rfl hresolve
    let ctx := engine.contextFor ⟨user, false, token⟩ data newData
    have hallowed : resolved.rule.decide true (ctx.withOverride false) = .ok true := hallowed
    have hstrict : resolved.rule.decide true (engine.contextFor ⟨user, true, token⟩ data newData) = .ok true :=
      decide_strict_override hrule hallowed
    have hdenied : deniedFields (ctx.withOverride false) resolved.fields = .ok passed := hdenied
    rw [(deniedFields_eq_ok_iff.mp hdenied).2] at hdenied
    have hkept := (deniedFields_override hfields).mpr ⟨hdenied, rfl⟩
    have hgate : engine.gate ⟨user, true, token⟩ action collection data newData =
        deniedFields (ctx.withOverride true) resolved.fields := by
      rw [gate, hresolve]
      dsimp only
      rw [hstrict]
      rfl
    exact ⟨_, hgate.trans hkept⟩
  · cases hno

end Override

/-- The fields that a call hides with the override, and those whose rules deny without it. They are the same
unless nobody calls and a field rule is for users. A call with the override fails only for want of a text. -/
theorem override_hides {document : Document} (hplain : document.isPlain = true)
    (hd : Rules.ofDocument .builtIn document = .ok engine.rules) (user : Option Record) (token : Option String)
    (action : Action) (collection : Option String) (data : Option Record) (newData : Option Draft.Members) :
    let plain := engine.contextFor ⟨user, false, token⟩ data newData
    let gate := fun isAdmin => engine.gate ⟨user, isAdmin, token⟩ action collection data newData
    (∀ f, gate true = .error f → Record.idOf data = .error f ∨
      ∃ u, (engine.contextFor ⟨user, true, token⟩ data newData).LacksText u ∧ f = u.failure .text) ∧
    (∀ passed, gate false = .ok passed → ∃ hidden, gate true = .ok hidden) ∧
    ∀ hidden, gate true = .ok hidden → ∃ resolved denied,
      engine.rules.resolve action collection data = .ok resolved ∧
      deniedFields plain resolved.fields = .ok denied ∧
      (∀ passed, gate false = .ok passed → passed = denied) ∧
      (∀ field, field ∈ hidden ↔ ∃ rule, (field, rule) ∈ resolved.fields ∧ rule.decide false plain = .ok false ∧
        ¬ (user = none ∧ rule.isForUsers = true)) ∧
      (hidden = denied ↔ user ≠ none ∨ ∀ f ∈ resolved.fields, f.2.isForUsers = false) := by
  intro plain gate
  have hrules := isBuiltIn_ofDocument hplain hd
  refine ⟨fun f => gate_override_error hrules rfl, fun passed => gate_override_of_gate hrules, fun hidden hg => ?_⟩
  obtain ⟨resolved, hresolve, -, hhidden⟩ := gate_ok hg
  obtain ⟨-, hfields⟩ := forall_resolve hrules rfl hresolve
  have hhidden : deniedFields (plain.withOverride true) resolved.fields = .ok hidden := hhidden
  obtain ⟨hdenied, rfl⟩ := (deniedFields_override hfields).mp hhidden
  refine ⟨resolved, _, hresolve, hdenied, fun passed hp => ?_, fun _ => mem_kept, kept_eq_denied_iff⟩
  obtain ⟨resolved', hresolve', -, hpassed⟩ := gate_ok hp
  obtain rfl : resolved' = resolved := Except.ok.inj (hresolve'.symm.trans hresolve)
  exact Except.ok.inj (hpassed.symm.trans hdenied)

/-! ### Notes that only users may read -/

def notesForUsers : Document :=
  .object [("books", .object [("*", .object [("notes", .object [(".read", .list [.text "User"])])])])]

def notesEngine : Engine :=
  ⟨.builtIn, none, builtInDefaults, [("books", ⟨[], [("notes", [(".read", .roles [.user])])], []⟩)]⟩

def annotated : Record := [("notes", .int 1)]

theorem notesEngine_of_rules : Rules.ofDocument .builtIn notesForUsers = .ok notesEngine.rules := rfl

/-- A nameless reader with the override is shown the notes, which are hidden from one without. -/
theorem override_hides_nothing_from_nobody :
    notesForUsers.isPlain = true ∧ Rules.ofDocument .builtIn notesForUsers = .ok notesEngine.rules ∧
      ∃ hidden, notesEngine.gate ⟨none, true, none⟩ .read (some "books") (some annotated) none = .ok hidden ∧
        "notes" ∉ hidden := by
  have hplain : notesForUsers.isPlain = true := rfl
  refine ⟨hplain, notesEngine_of_rules, ?_⟩
  obtain ⟨-, hpasses, hhides⟩ :=
    override_hides hplain notesEngine_of_rules none none .read (some "books") (some annotated) none
  obtain ⟨hidden, hg⟩ := hpasses ["notes"] (by cbv)
  obtain ⟨resolved, -, hresolve, -, -, hmem, -⟩ := hhides hidden hg
  refine ⟨hidden, hg, fun h => ?_⟩
  obtain ⟨rule, hr, -, hno⟩ := (hmem "notes").mp h
  have hbooks : notesEngine.rules.resolve .read (some "books") (some annotated) =
      .ok ⟨.allow, [("notes", .roles [.user])]⟩ := by cbv
  obtain rfl := Except.ok.inj (hresolve.symm.trans hbooks)
  rw [List.mem_singleton] at hr
  cases hr
  exact hno ⟨rfl, rfl⟩

/-- The same call passes without the override, and hides the notes then. -/
theorem override_opens_users_field :
    Engine.ofDocument .builtIn none notesForUsers = .ok notesEngine ∧
      notesEngine.gate ⟨none, false, none⟩ .read (some "books") (some annotated) none = .ok ["notes"] ∧
      notesEngine.gate ⟨none, true, none⟩ .read (some "books") (some annotated) none = .ok [] :=
  ⟨rfl, by cbv, by cbv⟩

end Engine

end DocumentStore.Rule
