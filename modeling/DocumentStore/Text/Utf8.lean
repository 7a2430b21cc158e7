/-
  DocumentStore.Text.Utf8 — reading UTF-8 that may be broken.

  The octets pass one by one. A character of several octets is under way until its last
  one came; an octet that cannot continue it ends it early. What is no character becomes
  U+FFFD: one for each octet that starts nothing, one for each character left unfinished.
-/

namespace DocumentStore.Text.Utf8

/-- A character under way: its bits so far, the octets still owed, and the least and the
greatest that the next of them may be. -/
structure Pending where
  bits : Nat
  owed : Nat
  least : Nat
  greatest : Nat
  deriving DecidableEq, Repr

def replacement : Char := '\ufffd'

/-- What an octet between characters gives: a character, or one under way. -/
def start (b : Nat) : List Char × Option Pending :=
  if b < 0x80 then ([Char.ofNat b], none)
  else if 0xc2 ≤ b ∧ b ≤ 0xdf then ([], some ⟨b - 0xc0, 1, 0x80, 0xbf⟩)
  else if b = 0xe0 then ([], some ⟨0, 2, 0xa0, 0xbf⟩)
  else if b = 0xed then ([], some ⟨0xd, 2, 0x80, 0x9f⟩)
  else if 0xe1 ≤ b ∧ b ≤ 0xef then ([], some ⟨b - 0xe0, 2, 0x80, 0xbf⟩)
  else if b = 0xf0 then ([], some ⟨0, 3, 0x90, 0xbf⟩)
  else if 0xf1 ≤ b ∧ b ≤ 0xf3 then ([], some ⟨b - 0xf0, 3, 0x80, 0xbf⟩)
  else if b = 0xf4 then ([], some ⟨4, 3, 0x80, 0x8f⟩)
  else ([replacement], none)

/-- What an octet gives after what is under way. -/
def step (pending : Option Pending) (b : Nat) : List Char × Option Pending :=
  match pending with
  | none => start b
  | some p =>
    if p.least ≤ b ∧ b ≤ p.greatest then
      let bits := p.bits * 0x40 + (b - 0x80)
      if p.owed = 1 then ([Char.ofNat bits], none)
      else ([], some ⟨bits, p.owed - 1, 0x80, 0xbf⟩)
    else
      let (cs, next) := start b
      (replacement :: cs, next)

def decodeFrom (pending : Option Pending) : List UInt8 → List Char
  | [] => if pending.isSome then [replacement] else []
  | b :: bs =>
    let (cs, next) := step pending b.toNat
    cs ++ decodeFrom next bs

/-- The characters that the octets write. -/
def decode (bs : List UInt8) : List Char := decodeFrom none bs

def encode (cs : List Char) : List UInt8 := cs.flatMap String.utf8EncodeChar

end DocumentStore.Text.Utf8
