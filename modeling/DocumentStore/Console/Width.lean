/-
  DocumentStore.Console.Width — how many cells of a console a text takes.

  A character takes one cell, two or none. A joiner takes the character behind it into the one in
  front, and the mark that asks for colours makes some pictures wide. What belongs together is
  a cluster: a character with the marks on it and all that is joined to it.
-/

import DocumentStore.Console.Emoji
import DocumentStore.Console.WidthTable

namespace DocumentStore.Console

/-- The character that joins its neighbours. -/
def joiner : Char := Char.ofNat 0x200d

def cellsOf (c : Char) : Nat :=
  if wideRanges.has c.toNat then 2
  else if invisibleRanges.has c.toNat || c.toNat < 32 || (127 ≤ c.toNat && c.toNat < 160) then 0
  else 1

/-- Whether a picture is wider in colours. -/
def widens (c : Char) : Bool := pictureRanges.has c.toNat

/-- The cells of a text; `widening` says that the last character with cells may get wider. -/
def widthFrom (widening : Bool) : List Char → Nat
  | [] => 0
  | c :: cs =>
    if c = joiner then
      match cs with
      | [] => 0
      | _ :: rest => widthFrom widening rest
    else if c = colourMark then (if widening then 1 else 0) + widthFrom false cs
    else
      match cellsOf c with
      | 0 => widthFrom widening cs
      | n => n + widthFrom (widens c) cs

def width (cs : List Char) : Nat := widthFrom false cs

/-! ## Clusters -/

structure Cluster where
  chars : List Char
  cells : Nat
  deriving DecidableEq, Repr

/-- The clusters of a text, of which `now` is the one that may go on; `widening` says that the last
character with cells may get wider. -/
def clustersFrom (now : Option Cluster) (widening : Bool) : List Char → List Cluster
  | [] => now.toList
  | c :: cs =>
    match now with
    | none =>
      let n := if c = joiner ∨ c = colourMark then 0 else cellsOf c
      clustersFrom (some ⟨[c], n⟩) (n != 0 && widens c) cs
    | some now =>
      if c = joiner then
        match cs with
        | [] => [⟨now.chars ++ [c], now.cells⟩]
        | d :: rest => clustersFrom (some ⟨now.chars ++ [c, d], now.cells⟩) widening rest
      else if c = colourMark then
        let wider := if widening then 1 else 0
        clustersFrom (some ⟨now.chars ++ [c], now.cells + wider⟩) false cs
      else
        match cellsOf c with
        | 0 => clustersFrom (some ⟨now.chars ++ [c], now.cells⟩) widening cs
        | n => now :: clustersFrom (some ⟨[c], n⟩) (widens c) cs

def clusters (cs : List Char) : List Cluster := clustersFrom none false cs

end DocumentStore.Console
