/-
  DocumentStore.Account.Password — stored password hashes, and tokens.

  A stored hash is `pbkdf2_sha256$rounds$salt$key` with the key in hexadecimal, so that it
  carries what is needed to check a password against it. A hash of another scheme, without
  digits for its rounds, without salt or without key matches no password; a key beyond
  ASCII and a number of rounds that is none or out of range are faults, and so are texts
  without UTF-8.
-/

import DocumentStore.Digest.Keyed
import DocumentStore.Failure
import DocumentStore.Text.Split

namespace DocumentStore.Account

open DocumentStore.Decimal

def hashScheme : String := "pbkdf2_sha256"

def defaultRounds : Int := 100000

/-- The most rounds that a key may be derived in. -/
def maxRounds : Int := 2147483647

def utf8 (s : String) : List UInt8 := s.toUTF8.toList

/-- The octets of a text, if it has them. -/
def octets (s : String) : Except Failure (List UInt8) :=
  if Text.isEncodable s.toList then .ok (utf8 s) else .error (.unencodable s)

/-- The key of a password, in hexadecimal. -/
def deriveKey (password salt : String) (rounds : Int) : Except Failure String := do
  let password ← octets password
  let salt ← octets salt
  if rounds < -(twoTo 63 : Int) ∨ twoTo 63 ≤ rounds then .error .wideRounds
  else if rounds < 1 then .error (.value .fewRounds)
  else if maxRounds < rounds then .error .manyRounds
  else .ok (Digest.derive password salt (rounds - 1).toNat).hexText

def hashText (rounds : Int) (salt key : String) : String :=
  hashScheme ++ "$" ++ intText rounds ++ "$" ++ salt ++ "$" ++ key

def hashPassword (password salt : String) (rounds : Int) : Except Failure String :=
  (deriveKey password salt rounds).map (hashText rounds salt)

/-- The text before and after the first `$`, all of it before if there is none. -/
def splitField (cs : List Char) : List Char × List Char :=
  (Text.cut '$' cs).getD (cs, [])

/-- The parts of a stored hash that could match a password. -/
structure StoredHash where
  rounds : String
  salt : String
  key : String
  deriving DecidableEq, Repr

def StoredHash.read? (stored : String) : Option StoredHash :=
  let (scheme, rest) := splitField stored.toList
  let (rounds, rest) := splitField rest
  let (salt, key) := splitField rest
  if scheme = hashScheme.toList ∧ !rounds.isEmpty ∧ rounds.all Text.isDigit ∧ !salt.isEmpty ∧
      !key.isEmpty then
    some ⟨String.ofList rounds, String.ofList salt, String.ofList key⟩
  else none

def StoredHash.verify (h : StoredHash) (password : String) : Except Failure Bool :=
  match Failure.readWhole h.rounds with
  | .error f => .error f
  | .ok rounds =>
    match deriveKey password h.salt rounds with
    | .error f => .error f
    | .ok key =>
      if h.key.toList.all (·.toNat < 128) then .ok (key == h.key) else .error .digestText

/-- Whether a password is the one that was stored. -/
def verifyPassword (password stored : String) : Except Failure Bool :=
  match StoredHash.read? stored with
  | none => .ok false
  | some h => h.verify password

/-- The token that stands for a value under a secret. -/
def signToken (value secret : String) : Except Failure String := do
  let secret ← octets secret
  let value ← octets value
  pure (Digest.hmac (Digest.Key.of secret) value).hexText

end DocumentStore.Account
