/-
  DocumentStore.Digest.Keyed — digests under a key: HMAC, and the key derivation PBKDF2
  built on it, both over SHA-256.

  The two padded keys fill a block each, so their states are computed once per key. Every
  round of the derivation but the first digests thirty-two bytes, which is one block.
-/

import DocumentStore.Digest.Sha256

namespace DocumentStore.Digest

/-- The states after the inner and the outer padded key. -/
structure Key where
  inner : State
  outer : State

def blockSize : Nat := 64

def Key.padded (key : List UInt8) (mask : UInt8) : List UInt8 :=
  (key ++ List.replicate (blockSize - key.length) 0).map (· ^^^ mask)

def Key.of (key : List UInt8) : Key :=
  let key := if blockSize < key.length then (sha256 key).bytes else key
  let state (mask : UInt8) := absorb 1 .initial (wordsOf (Key.padded key mask))
  ⟨state 0x36, state 0x5c⟩

def hmac (key : Key) (message : List UInt8) : State :=
  finish key.outer blockSize (finish key.inner blockSize message).bytes

/-- A digest as the one block that follows a padded key. -/
def digestBlock (s : State) : Array UInt32 :=
  #[s.a, s.b, s.c, s.d, s.e, s.f, s.g, s.h, 0x80000000, 0, 0, 0, 0, 0, 0, 768]

/-- `hmac` of the thirty-two bytes of a digest. -/
def hmacDigest (key : Key) (s : State) : State :=
  compress key.outer (digestBlock (compress key.inner (digestBlock s)))

/-- `n` more rounds after the one that gave `u`, with `t` the sum of all so far. -/
def deriveMore (key : Key) : (n : Nat) → (u t : State) → State
  | 0, _, t => t
  | n + 1, u, t =>
    let u := hmacDigest key u
    deriveMore key n u (t.xor u)

/-- The first thirty-two bytes derived from a password and a salt in `rounds + 1` rounds. -/
def derive (password salt : List UInt8) (rounds : Nat) : State :=
  let key := Key.of password
  let u := hmac key (salt ++ bytesOf 4 1)
  deriveMore key rounds u u

end DocumentStore.Digest
