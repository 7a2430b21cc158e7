/-
  DocumentStore.Proofs.ComponentNames — under which names entries are logged.

  A component goes by the name that it was met under first, be it one of the program's own or one of the calls
  before (`Knows`, kept by every call: `Knows.perform`). So an entry has the name that it was logged under just when no
  other name of the same component was met before that one (`entries_go_by_first_name`); where one was, the
  entry goes by that (`shared_component_keeps_first_name`).

  To log under a name is to meet the component by it and then to log: meeting it again changes nothing.
-/

import DocumentStore.Log.Session
import DocumentStore.Proofs.Named

namespace DocumentStore.Log.Session

/-! ## Calls -/

inductive Call where
  /-- A component is asked for by a name. -/
  | meet (name : String)
  /-- Something is logged under the name in the event. -/
  | log (event : Event)

def Call.name : Call → String
  | .meet name => name
  | .log e => e.component

def perform (s : Session) : Call → Option Passed × Session
  | .meet name => (none, { s with components := withComponent s.components name })
  | .log e => s.log e

def afterCalls (s : Session) (calls : List Call) : Session := calls.foldl (fun s c => (s.perform c).2) s

/-- The events of the calls that passed, each with what was logged of it. -/
def logged (s : Session) : List Call → List (Event × Passed)
  | [] => []
  | .meet name :: rest => logged (s.perform (.meet name)).2 rest
  | .log e :: rest => (s.log e).1.toList.map (fun p => (e, p)) ++ logged (s.perform (.log e)).2 rest

def standingNames : List String := ["API", "Store", "Query", "Rules", "Auth"]

/-- The first of the names met for the component of a name; where there is none, the name itself. -/
def firstMet (names : List String) (name : String) : String :=
  (names.find? fun n => componentKey n == componentKey name).getD name

def IsFirst (names : List String) (name : String) : Prop :=
  ∀ front other back, names = front ++ other :: back → componentKey other = componentKey name →
    other = name ∨ name ∈ front

theorem firstMet_eq_self_iff {names : List String} {name : String} :
    firstMet names name = name ↔ IsFirst names name := by
  unfold firstMet
  cases hfind : names.find? fun n => componentKey n == componentKey name with
  | none =>
    refine ⟨fun _ front other back hnames hkey => ?_, fun _ => rfl⟩
    have hother := List.find?_eq_none.mp hfind other (hnames ▸ List.mem_append_right _ List.mem_cons_self)
    exact absurd (beq_iff_eq.mpr hkey) hother
  | some first =>
    obtain ⟨hfirst, front, back, hnames, hfront⟩ := List.find?_eq_some_iff_append.mp hfind
    have hnone : ∀ n ∈ front, componentKey n ≠ componentKey name := fun n hn => by simpa using hfront n hn
    rw [Option.getD_some]
    constructor
    · rintro rfl front' other back' hnames' hkey
      -- the other name stands at the place of the first one or behind it
      rcases List.append_eq_append_iff.mp (hnames.symm.trans hnames') with ⟨mid, rfl, hmid⟩ | ⟨mid, rfl, hmid⟩
      · cases mid with
        | nil => exact Or.inl (List.cons.inj hmid).1.symm
        | cons n mid =>
          rw [(List.cons.inj hmid).1]
          exact Or.inr (List.mem_append_right _ List.mem_cons_self)
      · cases mid with
        | nil => exact Or.inl (List.cons.inj hmid).1
        | cons n mid =>
          rw [← (List.cons.inj hmid).1] at hnone
          exact absurd hkey (hnone other (List.mem_append_right _ List.mem_cons_self))
    · intro hisFirst
      rcases hisFirst front first back hnames (beq_iff_eq.mp hfirst) with rfl | hmem
      · rfl
      · exact absurd rfl (hnone name hmem)

/-! ## What a session knows -/

/-- The session knows each component by the first of the names that it was met under. -/
def Knows (s : Session) (names : List String) : Prop :=
  ∀ key, s.components.get? key = names.find? fun n => componentKey n == key

theorem get?_withComponent (components : Named String) (name key : String) :
    (withComponent components name).get? key =
      (components.get? key).or (if componentKey name = key then some name else none) := by
  unfold withComponent
  by_cases hkey : componentKey name = key
  · subst hkey
    rw [if_pos rfl]
    split
    · rename_i hhas
      obtain ⟨known, hknown⟩ := Option.isSome_iff_exists.mp hhas
      rw [hknown, Option.some_or]
    · rename_i hhas
      have hnone : components.get? (componentKey name) = none := by simpa [Keyed.has] using hhas
      rw [Keyed.get?_put_self _ (beq_self_eq_true _), hnone, Option.none_or]
  · rw [if_neg hkey, Option.or_none]
    split
    · rfl
    · exact Keyed.get?_put_of_ne _ (Ne.symm hkey) _

section Knows

variable {s : Session} {names : List String}

theorem Knows.met (h : s.Knows names) (name : String) :
    Knows { s with components := withComponent s.components name } (names ++ [name]) := by
  intro key
  dsimp only
  rw [get?_withComponent, h key, List.find?_append]
  by_cases hkey : componentKey name = key <;> simp [hkey]

/-- What is logged passes as it is, but for the name that its component goes by. -/
theorem Knows.log (h : s.Knows names) (e : Event) :
    (s.log e).1 =
      if s.threshold.passes e.level then some { e with component := firstMet names e.component } else none := by
  have hname : ((withComponent s.components e.component).get? (componentKey e.component)).getD e.component =
      firstMet names e.component := by
    rw [get?_withComponent, h, if_pos rfl, firstMet]
    cases names.find? fun n => componentKey n == componentKey e.component <;> rfl
  unfold Session.log
  dsimp only
  split
  · rw [hname]
  · rfl

theorem log_session (s : Session) (e : Event) :
    (s.log e).2 = { s with components := withComponent s.components e.component } := by
  unfold Session.log
  dsimp only
  split <;> rfl

theorem Knows.perform (h : s.Knows names) (c : Call) : (s.perform c).2.Knows (names ++ [c.name]) := by
  cases c with
  | meet name => exact h.met name
  | log e =>
    rw [Session.perform, log_session]
    exact h.met e.component

theorem threshold_perform (s : Session) (c : Call) : (s.perform c).2.threshold = s.threshold := by
  cases c with
  | meet name => rfl
  | log e => rw [perform, log_session]

theorem Knows.afterCalls (h : s.Knows names) (calls : List Call) :
    (s.afterCalls calls).Knows (names ++ calls.map Call.name) ∧ (s.afterCalls calls).threshold = s.threshold := by
  induction calls generalizing s names with
  | nil => exact ⟨by rwa [List.map_nil, List.append_nil], rfl⟩
  | cons c rest ih =>
    obtain ⟨hknows, hthreshold⟩ := ih (h.perform c)
    rw [List.append_assoc] at hknows
    exact ⟨hknows, hthreshold.trans (threshold_perform s c)⟩

end Knows

theorem mem_logged_iff {s : Session} {calls : List Call} {f : Event × Passed} :
    f ∈ s.logged calls ↔
      ∃ before after, calls = before ++ .log f.1 :: after ∧ ((s.afterCalls before).log f.1).1 = some f.2 := by
  induction calls generalizing s with
  | nil => simp [logged]
  | cons c rest ih =>
    have hsplit : f ∈ s.logged (c :: rest) ↔
        (c = .log f.1 ∧ (s.log f.1).1 = some f.2) ∨ f ∈ (s.perform c).2.logged rest := by
      cases c with
      | meet name => simp [logged]
      | log e =>
        rw [logged, List.mem_append, List.mem_map]
        refine or_congr_left ⟨?_, ?_⟩
        · rintro ⟨p, hp, rfl⟩
          exact ⟨rfl, Option.mem_toList.mp hp⟩
        · rintro ⟨he, hp⟩
          cases he
          exact ⟨f.2, Option.mem_toList.mpr hp, rfl⟩
    rw [hsplit, ih]
    constructor
    · rintro (⟨rfl, hlog⟩ | ⟨before, after, rfl, hlog⟩)
      · exact ⟨[], rest, rfl, hlog⟩
      · exact ⟨c :: before, after, rfl, hlog⟩
    · rintro ⟨before, after, hcalls, hlog⟩
      cases before with
      | nil => exact Or.inl ⟨(List.cons.inj hcalls).1, hlog⟩
      | cons b before =>
        obtain ⟨rfl, rfl⟩ := List.cons.inj hcalls
        exact Or.inr ⟨before, after, rfl, hlog⟩

theorem get?_foldl_withComponent (components : Named String) (names : List String) (key : String) :
    (names.foldl withComponent components).get? key =
      (components.get? key).or (names.find? fun n => componentKey n == key) := by
  induction names generalizing components with
  | nil => rw [List.foldl_nil, List.find?_nil, Option.or_none]
  | cons n names ih =>
    rw [List.foldl_cons, ih, get?_withComponent, Option.or_assoc, List.find?_cons]
    by_cases hkey : componentKey n = key
    · rw [if_pos hkey, beq_iff_eq.mpr hkey, Option.some_or]
    · rw [if_neg hkey, beq_eq_false_iff_ne.mpr hkey, Option.none_or]

/-- A new session knows the program's own components; what it logs at once is under the name of one of them. -/
theorem knows_start (directory : Option Path) (threshold : Level) :
    (start directory threshold).2.Knows standingNames ∧ (start directory threshold).2.threshold = threshold := by
  have hstanding (d : Option Path) : Knows ⟨d, threshold, standing⟩ standingNames := fun key =>
    get?_foldl_withComponent [] standingNames key
  cases directory with
  | none => exact ⟨hstanding none, rfl⟩
  | some dir =>
    have hlogged : (start (some dir) threshold).2 =
        ⟨some dir, threshold, withComponent standing "API"⟩ :=
      log_session ⟨some dir, threshold, standing⟩ (opening dir)
    have hknown : withComponent standing "API" = standing := if_pos (by decide +kernel)
    rw [hlogged, hknown]
    exact ⟨hstanding (some dir), rfl⟩

/-! ## What is logged -/

/-- After any calls an entry goes by the first of the names that its component was met under, the program's own
before all others; so the entries go by the names that they were logged under just when each of these was the
first for its component. -/
theorem entries_go_by_first_name (directory : Option Path) (threshold : Level) (calls : List Call) :
    let s := (start directory threshold).2
    (∀ before e after, calls = before ++ .log e :: after →
      ((s.afterCalls before).log e).1 =
        if threshold.passes e.level then
          some { e with component := firstMet (standingNames ++ before.map Call.name) e.component }
        else none) ∧
    ((∀ f ∈ s.logged calls, f.2.component = f.1.component) ↔
      ∀ before e after, calls = before ++ .log e :: after → threshold.passes e.level = true →
        IsFirst (standingNames ++ before.map Call.name) e.component) := by
  intro s
  obtain ⟨hknows, hthreshold⟩ := knows_start directory threshold
  have hlog (before : List Call) (e : Event) :
      ((s.afterCalls before).log e).1 =
        if threshold.passes e.level then
          some { e with component := firstMet (standingNames ++ before.map Call.name) e.component }
        else none := by
    obtain ⟨hbefore, hsame⟩ := hknows.afterCalls before
    rw [hbefore.log, hsame, hthreshold]
  refine ⟨fun before e _ _ => hlog before e, ?_⟩
  constructor
  · intro hown before e after hcalls hpasses
    have hentry := hlog before e
    rw [if_pos hpasses] at hentry
    exact firstMet_eq_self_iff.mp (hown (e, _) (mem_logged_iff.mpr ⟨before, after, hcalls, hentry⟩))
  · intro hfirst f hf
    obtain ⟨before, after, hcalls, hentry⟩ := mem_logged_iff.mp hf
    rw [hlog before f.1] at hentry
    split at hentry
    · rename_i hpasses
      rw [← Option.some.inj hentry]
      exact firstMet_eq_self_iff.mpr (hfirst before f.1 after hcalls hpasses)
    · cases hentry

/-! ## Two names of one component -/

def shiftStart : Event := ⟨"Night Shift", Level.info, "first", []⟩

def shiftEnd : Event := ⟨"night_shift", Level.info, "second", []⟩

theorem firstMet_shift :
    firstMet standingNames "Night Shift" = "Night Shift" ∧
      firstMet (standingNames ++ ["Night Shift"]) "night_shift" = "Night Shift" := by
  have hkey : componentKey "Night Shift" = "night_shift" := String.toList_inj.mp (by decide +kernel)
  have hkey' : componentKey "night_shift" = "night_shift" := String.toList_inj.mp (by decide +kernel)
  have hstanding : (standingNames.find? fun n => componentKey n == "night_shift") = none :=
    List.find?_eq_none.mpr (by decide +kernel)
  rw [firstMet, firstMet, List.find?_append, hkey, hkey', hstanding, Option.none_or, List.find?_cons, hkey]
  exact ⟨rfl, rfl⟩

/-- The second entry has the name of the first call, not the one that it was logged under. -/
theorem shared_component_keeps_first_name :
    (start none Level.info).2.logged [.log shiftStart, .log shiftEnd] =
        [(shiftStart, shiftStart), (shiftEnd, { shiftEnd with component := "Night Shift" })] ∧
      ¬ ∀ f ∈ (start none Level.info).2.logged [.log shiftStart, .log shiftEnd],
        f.2.component = f.1.component := by
  have hlogged : (start none Level.info).2.logged [.log shiftStart, .log shiftEnd] =
      [(shiftStart, shiftStart), (shiftEnd, { shiftEnd with component := "Night Shift" })] := by
    obtain ⟨hknows, hthreshold⟩ := knows_start none Level.info
    generalize (start none Level.info).2 = s at hknows hthreshold
    have hpasses : Level.info.passes Level.info = true := by decide
    have hfirst : (s.log shiftStart).1 = some shiftStart := by
      rw [hknows.log, hthreshold, shiftStart, firstMet_shift.1]
      exact if_pos hpasses
    have hsecond : ((s.perform (.log shiftStart)).2.log shiftEnd).1 =
        some { shiftEnd with component := "Night Shift" } := by
      rw [(hknows.perform (.log shiftStart)).log, threshold_perform, hthreshold, Call.name, shiftStart, shiftEnd,
        firstMet_shift.2]
      exact if_pos hpasses
    rw [logged, logged, logged, hfirst, hsecond]
    rfl
  refine ⟨hlogged, fun hown => ?_⟩
  rw [hlogged] at hown
  have hname : "Night Shift" = "night_shift" := hown _ (List.mem_cons_of_mem _ List.mem_cons_self)
  exact absurd hname (by decide)

end DocumentStore.Log.Session
