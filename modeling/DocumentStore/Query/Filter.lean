/-
  DocumentStore.Query.Filter — conditions joined by one connective.

  The text is cut at every ` and `, or, if there is none, at every ` or `, each in any
  letter case and wherever it stands, in a quoted literal too; `and` and `or` are never
  mixed. A filter accepts a record that all its clauses accept, or any of them.
-/

import DocumentStore.Query.Clause

namespace DocumentStore.Query

inductive Connective where
  | and
  | or
  deriving DecidableEq, Repr

def Connective.word : Connective → List Char
  | .and => [' ', 'a', 'n', 'd', ' ']
  | .or => [' ', 'o', 'r', ' ']

theorem takeWord_length {word cs written rest : List Char}
    (h : takeWord word cs = some (written, rest)) : rest.length + word.length = cs.length := by
  induction word generalizing cs written rest with
  | nil => simp [takeWord] at h; simp [h]
  | cons p ps ih =>
    cases cs with
    | nil => simp [takeWord] at h
    | cons c cs =>
      simp only [takeWord] at h
      split at h
      · obtain ⟨⟨w, r⟩, hw, he⟩ := Option.map_eq_some_iff.1 h
        obtain ⟨-, rfl⟩ := Prod.mk.injEq .. ▸ he
        have := ih hw
        simp only [List.length_cons]
        omega
      · cases h

/-- The text before and after the first `word` in it. -/
def cutAtWord (word : List Char) : List Char → Option (List Char × List Char)
  | [] => none
  | c :: cs =>
    match takeWord word (c :: cs) with
    | some (_, rest) => some ([], rest)
    | none => (cutAtWord word cs).map fun (before, after) => (c :: before, after)

theorem cutAtWord_length {word cs before after : List Char} (hw : word ≠ [])
    (h : cutAtWord word cs = some (before, after)) : after.length < cs.length := by
  induction cs generalizing before after with
  | nil => simp [cutAtWord] at h
  | cons c cs ih =>
    simp only [cutAtWord] at h
    split at h
    · rename_i w r hr
      have := takeWord_length hr
      have : 0 < word.length := List.length_pos_iff.2 hw
      simp only [Option.some.injEq, Prod.mk.injEq] at h
      rw [← h.2]
      omega
    · obtain ⟨⟨b, a⟩, hb, he⟩ := Option.map_eq_some_iff.1 h
      obtain ⟨-, rfl⟩ := Prod.mk.injEq .. ▸ he
      have := ih hb
      simp only [List.length_cons]
      omega

theorem Connective.word_ne_nil (k : Connective) : k.word ≠ [] := by
  cases k <;> simp [Connective.word]

/-- The pieces of `cs` between the connectives. -/
def piecesAt (k : Connective) (cs : List Char) : List (List Char) :=
  match _h : cutAtWord k.word cs with
  | none => [cs]
  | some (before, after) => before :: piecesAt k after
termination_by cs.length
decreasing_by exact cutAtWord_length k.word_ne_nil _h

structure Filter where
  connective : Connective
  clauses : List Clause
  deriving DecidableEq, Repr

/-- Which connective joins the clauses of a text; a single clause counts as joined by `and`. -/
def connectiveOf (cs : List Char) : Connective :=
  if (cutAtWord Connective.and.word cs).isSome then .and
  else if (cutAtWord Connective.or.word cs).isSome then .or
  else .and

/-- The clauses read in order, or the first failure. -/
def parseClauses : List (List Char) → Except Failure (List Clause)
  | [] => .ok []
  | piece :: rest =>
    match Clause.parse piece with
    | .error e => .error e
    | .ok clause => (parseClauses rest).map (clause :: ·)

def Filter.parse (text : String) : Except Failure Filter :=
  let cs := Text.trim text.toList
  let k := connectiveOf cs
  (parseClauses (piecesAt k cs)).map fun clauses => ⟨k, clauses⟩

def Filter.accepts (filter : Filter) (record : Record) : Bool :=
  match filter.connective with
  | .and => filter.clauses.all (·.accepts record)
  | .or => filter.clauses.any (·.accepts record)

end DocumentStore.Query
