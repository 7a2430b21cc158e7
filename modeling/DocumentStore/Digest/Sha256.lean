/-
  DocumentStore.Digest.Sha256 — the hash function SHA-256 (FIPS 180-4).

  A message is bytes, padded to blocks of sixteen words; every block changes a state of
  eight words. `absorb` takes whole blocks, so a state reached once can be used again for
  messages that start alike.
-/

import DocumentStore.Text.Quoted

namespace DocumentStore.Digest

structure State where
  a : UInt32
  b : UInt32
  c : UInt32
  d : UInt32
  e : UInt32
  f : UInt32
  g : UInt32
  h : UInt32
  deriving DecidableEq, Repr

namespace State

def initial : State :=
  ⟨0x6a09e667, 0xbb67ae85, 0x3c6ef372, 0xa54ff53a, 0x510e527f, 0x9b05688c, 0x1f83d9ab, 0x5be0cd19⟩

def words (s : State) : List UInt32 := [s.a, s.b, s.c, s.d, s.e, s.f, s.g, s.h]

def add (s t : State) : State :=
  ⟨s.a + t.a, s.b + t.b, s.c + t.c, s.d + t.d, s.e + t.e, s.f + t.f, s.g + t.g, s.h + t.h⟩

def xor (s t : State) : State :=
  ⟨s.a ^^^ t.a, s.b ^^^ t.b, s.c ^^^ t.c, s.d ^^^ t.d, s.e ^^^ t.e, s.f ^^^ t.f, s.g ^^^ t.g,
    s.h ^^^ t.h⟩

end State

def roundConstants : Array UInt32 := #[
  0x428a2f98, 0x71374491, 0xb5c0fbcf, 0xe9b5dba5, 0x3956c25b, 0x59f111f1, 0x923f82a4, 0xab1c5ed5,
  0xd807aa98, 0x12835b01, 0x243185be, 0x550c7dc3, 0x72be5d74, 0x80deb1fe, 0x9bdc06a7, 0xc19bf174,
  0xe49b69c1, 0xefbe4786, 0x0fc19dc6, 0x240ca1cc, 0x2de92c6f, 0x4a7484aa, 0x5cb0a9dc, 0x76f988da,
  0x983e5152, 0xa831c66d, 0xb00327c8, 0xbf597fc7, 0xc6e00bf3, 0xd5a79147, 0x06ca6351, 0x14292967,
  0x27b70a85, 0x2e1b2138, 0x4d2c6dfc, 0x53380d13, 0x650a7354, 0x766a0abb, 0x81c2c92e, 0x92722c85,
  0xa2bfe8a1, 0xa81a664b, 0xc24b8b70, 0xc76c51a3, 0xd192e819, 0xd6990624, 0xf40e3585, 0x106aa070,
  0x19a4c116, 0x1e376c08, 0x2748774c, 0x34b0bcb5, 0x391c0cb3, 0x4ed8aa4a, 0x5b9cca4f, 0x682e6ff3,
  0x748f82ee, 0x78a5636f, 0x84c87814, 0x8cc70208, 0x90befffa, 0xa4506ceb, 0xbef9a3f7, 0xc67178f2]

@[inline] def rotate (x : UInt32) (n : UInt32) : UInt32 := (x >>> n) ||| (x <<< (32 - n))

@[inline] def word (w : Array UInt32) (i : Nat) : UInt32 := w.getD i 0

/-- The message schedule, `n` words longer. -/
def extend : (n : Nat) → (w : Array UInt32) → Array UInt32
  | 0, w => w
  | n + 1, w =>
    let i := w.size
    let x := word w (i - 15)
    let y := word w (i - 2)
    let s0 := rotate x 7 ^^^ rotate x 18 ^^^ (x >>> 3)
    let s1 := rotate y 17 ^^^ rotate y 19 ^^^ (y >>> 10)
    extend n (w.push (word w (i - 16) + s0 + word w (i - 7) + s1))

/-- The last `n` of the sixty-four rounds. -/
def rounds (w : Array UInt32) : (n : Nat) → (a b c d e f g h : UInt32) → State
  | 0, a, b, c, d, e, f, g, h => ⟨a, b, c, d, e, f, g, h⟩
  | n + 1, a, b, c, d, e, f, g, h =>
    let i := 63 - n
    let s1 := rotate e 6 ^^^ rotate e 11 ^^^ rotate e 25
    let choice := (e &&& f) ^^^ ((~~~e) &&& g)
    let t1 := h + s1 + choice + word roundConstants i + word w i
    let s0 := rotate a 2 ^^^ rotate a 13 ^^^ rotate a 22
    let majority := (a &&& b) ^^^ (a &&& c) ^^^ (b &&& c)
    rounds w n (t1 + s0 + majority) a b c (d + t1) e f g

/-- The state after one block of sixteen words. -/
def compress (s : State) (block : Array UInt32) : State :=
  s.add (rounds (extend 48 block) 64 s.a s.b s.c s.d s.e s.f s.g s.h)

/-- The state after `n` blocks. -/
def absorb : (n : Nat) → State → List UInt32 → State
  | 0, s, _ => s
  | n + 1, s, ws => absorb n (compress s (ws.take 16).toArray) (ws.drop 16)

/-- Words of four bytes, the most significant first. -/
def wordsOf : List UInt8 → List UInt32
  | a :: b :: c :: d :: rest =>
    ((a.toUInt32 <<< 24) ||| (b.toUInt32 <<< 16) ||| (c.toUInt32 <<< 8) ||| d.toUInt32) ::
      wordsOf rest
  | _ => []

/-- The low byte of `n` shifted right by `8 * i` bits, for the `i` below `count`, highest first. -/
def bytesOf : (count : Nat) → (n : Nat) → List UInt8
  | 0, _ => []
  | count + 1, n => bytesOf count (n / 256) ++ [UInt8.ofNat (n % 256)]

/-- The message made up to whole blocks, `before` bytes having come ahead of it. -/
def pad (before : Nat) (message : List UInt8) : List UInt8 :=
  let size := message.length
  message ++ 0x80 :: List.replicate ((119 - size % 64) % 64) 0 ++ bytesOf 8 (8 * (before + size))

/-- The state after the rest of a message of which `before` bytes are in `s` already. -/
def finish (s : State) (before : Nat) (message : List UInt8) : State :=
  let padded := pad before message
  absorb (padded.length / 64) s (wordsOf padded)

def sha256 (message : List UInt8) : State := finish .initial 0 message

/-- The thirty-two bytes of a digest. -/
def State.bytes (s : State) : List UInt8 := s.words.flatMap fun w => bytesOf 4 w.toNat

/-- The sixty-four lower-case hexadecimal digits of a digest. -/
def State.hexText (s : State) : String :=
  String.ofList (s.words.flatMap fun w => Text.hex 8 w.toNat)

end DocumentStore.Digest
