/-
  DocumentStore.Proofs.PlainRules — what rules without predicates of somebody else's making look at.

  Such rules are `Plain`, as those of a document read with the built-in registry are. Of the
  caller they see whether there is a user, the user's id and the override; of a record its owner,
  and its id when they are looked up. So they decide alike on contexts that are `Alike` in that
  (`decide_alike`, `gate_alike`).

  They always decide, or ask for a caller, but where an id or an owner has no text (`gate_error`). A
  call that they let pass is hidden the fields that they deny, and no others (`mem_hidden`).
-/

import Mathlib
import DocumentStore.Proofs.Override

namespace DocumentStore

namespace Caller

/-- The rules see no difference between the callers. -/
structure Alike (a b : Caller) : Prop where
  someone : a.user.isSome = b.user.isSome
  userId : a.userId = b.userId
  isAdmin : a.isAdmin = b.isAdmin

theorem Alike.refl (a : Caller) : a.Alike a := ⟨rfl, rfl, rfl⟩

end Caller

namespace Rule

open Store (ownerField)

/-- The rules ask no predicate but the built-in ones. -/
def Rules.Plain (rules : Rules) : Prop := rules.Forall fun rule => rule.isBuiltIn = true

theorem plain_ofDocument {lookup : Option Lookup} {document : Document} {engine : Engine}
    (hplain : document.isPlain = true) (h : Engine.ofDocument .builtIn lookup document = .ok engine) :
    engine.rules.Plain := by
  obtain ⟨rules, hrules, rfl⟩ := Result.map_eq_ok.mp h
  refine isBuiltIn_ofDocument ?_ hrules
  split
  · exact hplain
  · rfl

/-! ## Decisions -/

structure Context.Alike (a b : Context) : Prop where
  someone : a.user.isSome = b.user.isSome
  userId : a.userId = b.userId
  isAdmin : a.isAdmin = b.isAdmin
  owner : a.data.get? ownerField = b.data.get? ownerField
  newOwner : a.newData.get? (.text ownerField) = b.newData.get? (.text ownerField)

section Decisions

variable {a b : Context} {rule : Rule}

theorem isNone_alike (h : a.Alike b) : a.user.isNone = b.user.isNone := by
  rw [← Option.not_isSome, ← Option.not_isSome, h.someone]

theorem ownerIn_alike (h : a.Alike b) : ownerIn a.data = ownerIn b.data := by
  rw [ownerIn, ownerIn, h.owner]

theorem owns_alike (h : a.Alike b) (owner : Option Draft) : a.owns owner = b.owns owner := by
  rw [Context.owns, Context.owns, h.userId]

theorem holds_alike {p : Predicate} (hp : p.builtInName?.isSome = true) (h : a.Alike b) :
    p.holds a = p.holds b := by
  cases p with
  | isOwner => simp only [Predicate.holds, owns_alike h, ownerIn_alike h]
  | isNewOwner => simp only [Predicate.holds, owns_alike h, h.newOwner]
  | isAuthenticated => simp only [Predicate.holds, h.someone]
  | isGuest => simp only [Predicate.holds, isNone_alike h]
  | custom test => cases hp

/-- A rule on built-in predicates decides alike on contexts between which it sees no difference. -/
theorem decide_alike (hb : rule.isBuiltIn = true) (strict : Bool) (h : a.Alike b) :
    rule.decide strict a = rule.decide strict b := by
  cases rule with
  | allow => rfl
  | deny => rfl
  | roles rs =>
    simp only [decide, decideRoles, isNone_alike h, h.someone, h.isAdmin, owns_alike h, ownerIn_alike h]
  | owner => simp only [decide, owns_alike h, ownerIn_alike h]
  | named name negated p => simp only [decide, holds_alike hb h]

theorem deniedFields_alike {fields : Named Rule} (hb : ∀ f ∈ fields, f.2.isBuiltIn = true) (h : a.Alike b) :
    deniedFields a fields = deniedFields b fields := by
  induction fields with
  | nil => rfl
  | cons f rest ih =>
    rw [deniedFields, deniedFields, decide_alike (hb f List.mem_cons_self) false h,
      ih fun g hg => hb g (List.mem_cons_of_mem f hg)]

end Decisions

/-! ## The gate -/

namespace Engine

variable {engine : Engine} {action : Action} {collection : Option String}

/-- Records with the same id are under the same rules. -/
theorem resolve_congr {rules : Rules} {data₁ data₂ : Option Record} (hid : Record.idOf data₁ = Record.idOf data₂)
    (action : Action) (collection : Option String) :
    rules.resolve action collection data₁ = rules.resolve action collection data₂ := by
  simp only [Rules.resolve, hid]

/-- Calls between which the rules see no difference pass alike, and are hidden the same fields. -/
theorem gate_alike (hplain : engine.rules.Plain) {a b : Caller} (hc : a.Alike b) (lookup₁ lookup₂ : Option Lookup)
    {data₁ data₂ : Option Record} (hid : Record.idOf data₁ = Record.idOf data₂)
    (howner : (data₁.getD []).get? ownerField = (data₂.getD []).get? ownerField)
    (newData : Option Draft.Members) :
    gate { engine with lookup := lookup₁ } a action collection data₁ newData =
      gate { engine with lookup := lookup₂ } b action collection data₂ newData := by
  have halike : (contextFor { engine with lookup := lookup₁ } a data₁ newData).Alike
      (contextFor { engine with lookup := lookup₂ } b data₂ newData) :=
    ⟨hc.someone, hc.userId, hc.isAdmin, howner, rfl⟩
  have hdenial : (denial a : Except Failure (List String)) = denial b := by rw [denial, denial, hc.userId]
  simp only [gate]
  rw [resolve_congr hid]
  cases hresolve : engine.rules.resolve action collection data₂ with
  | error f => rfl
  | ok resolved =>
    obtain ⟨hrule, hfields⟩ := forall_resolve hplain rfl hresolve
    dsimp only
    rw [decide_alike hrule true halike, deniedFields_alike hfields halike, hc.isAdmin, hdenial]

def denied (engine : Engine) (caller : Caller) (action : Action) (collection : Option String)
    (data : Option Record) (newData : Option Draft.Members) (field : String) : Bool :=
  match engine.rules.resolve action collection data with
  | .error _ => false
  | .ok resolved =>
    resolved.fields.any fun f => f.1 == field && denies (engine.contextFor caller data newData) f.2

/-- What is hidden from a call that passes is what its rules deny. -/
theorem mem_hidden {caller : Caller} {data : Option Record} {newData : Option Draft.Members}
    {hidden : List String} (h : engine.gate caller action collection data newData = .ok hidden) (field : String) :
    field ∈ hidden ↔ engine.denied caller action collection data newData field = true := by
  obtain ⟨resolved, hresolve, -, hhidden⟩ := gate_ok h
  rw [mem_deniedFields hhidden, denied, hresolve]
  dsimp only
  rw [List.any_eq_true]
  constructor
  · rintro ⟨rule, hm, hno⟩
    exact ⟨(field, rule), hm, by simpa using denies_iff.mpr hno⟩
  · rintro ⟨⟨name, rule⟩, hm, hboth⟩
    obtain ⟨hname, hno⟩ := Bool.and_eq_true_iff.mp hboth
    obtain rfl : name = field := eq_of_beq hname
    exact ⟨rule, hm, denies_iff.mp hno⟩

end Engine

end Rule

end DocumentStore
