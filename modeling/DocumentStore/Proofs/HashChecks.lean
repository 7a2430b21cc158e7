/-
  DocumentStore.Proofs.HashChecks — which stored texts match a password, and which cannot be checked.

  A text that is not written as a hash of the scheme matches no password (`verifyPassword_of_no_hash`). One
  that is matches the passwords whose key it holds. But what is written as a hash cannot always be checked:
  its rounds may be digits without a value, too many digits or no rounds at all, its key may not be plain,
  and the password or the salt may have no octets. Then the check fails instead of finding no match
  (`verifyPassword_answers_iff`, `odd_rounds_fail`).
-/

import DocumentStore.Proofs.StoredHash

namespace DocumentStore.Account

open Decimal

section Checks

variable {h h' : StoredHash} {stored password : String} {n : Nat}

theorem StoredHash.WrittenAs.unique (hwritten : h.WrittenAs stored) (hwritten' : h'.WrittenAs stored) : h' = h := by
  have hread := StoredHash.read?_eq_some_iff.mpr hwritten
  rw [StoredHash.read?_eq_some_iff.mpr hwritten'] at hread
  exact Option.some.inj hread

/-- A text that is not written as a hash matches no password. -/
theorem verifyPassword_of_no_hash (hno : ∀ h : StoredHash, ¬ h.WrittenAs stored) (password : String) :
    verifyPassword password stored = .ok false := by
  rw [verifyPassword]
  cases hread : StoredHash.read? stored with
  | none => rfl
  | some h => exact absurd (StoredHash.read?_eq_some_iff.mp hread) (hno h)

/-- What it takes to check a password against a hash, of which `n` are the rounds. -/
structure StoredHash.Checkable (h : StoredHash) (password : String) (n : Nat) : Prop where
  rounds : Writes h.rounds n
  short : h.rounds.length ≤ maxDigits
  low : 1 ≤ n
  high : n ≤ maxRounds
  password : Text.isEncodable password.toList = true
  salt : Text.isEncodable h.salt.toList = true
  key : h.key.toList.all (·.toNat < 128) = true

/-- Such a password has a key under the salt of the hash. -/
theorem StoredHash.Checkable.hasKey (hcheck : h.Checkable password n) : ∃ key, deriveKey password h.salt n = .ok key := by
  have hlow : (1 : Int) ≤ n := by exact_mod_cast hcheck.low
  exact ⟨_, deriveKey_eq_ok_iff.mpr ⟨hcheck.password, hcheck.salt, hlow, hcheck.high, rfl⟩⟩

theorem StoredHash.Checkable.of_key {key : String} (hrounds : Writes h.rounds n) (hshort : h.rounds.length ≤ maxDigits)
    (hkey : deriveKey password h.salt n = .ok key) (hascii : h.key.toList.all (·.toNat < 128) = true) :
    h.Checkable password n := by
  obtain ⟨hpassword, hsalt, hlow, hhigh, -⟩ := deriveKey_eq_ok_iff.mp hkey
  exact ⟨hrounds, hshort, by omega, hhigh, hpassword, hsalt, hascii⟩

theorem readInt_of_readWhole {text : String} {z : Int} (h : Failure.readWhole text = .ok z) : readInt text = .ok z := by
  rw [Failure.readWhole] at h
  split at h
  · rename_i hread
    cases h
    exact hread
  · cases h
  · cases h

/-- A check of a hash answers exactly if the hash can be checked, by comparing keys. -/
theorem StoredHash.WrittenAs.verifyPassword_eq_ok_iff (hwritten : h.WrittenAs stored) (password : String) (same : Bool) :
    verifyPassword password stored = .ok same ↔
      ∃ n key, h.Checkable password n ∧ deriveKey password h.salt n = .ok key ∧ same = (key == h.key) := by
  have hrounds {rounds : Int} := readInt_eq_ok_iff hwritten.digits hwritten.rounds (z := rounds)
  rw [verifyPassword, StoredHash.read?_eq_some_iff.mpr hwritten]
  dsimp only
  constructor
  · intro hverify
    rw [StoredHash.verify] at hverify
    split at hverify
    · cases hverify
    rename_i rounds hread
    split at hverify
    · cases hverify
    rename_i key hkey
    split at hverify
    · rename_i hascii
      obtain ⟨n, hwrites, hshort, rfl⟩ := hrounds.mp (readInt_of_readWhole hread)
      exact ⟨n, key, .of_key hwrites hshort hkey hascii, hkey, (Except.ok.inj hverify).symm⟩
    · cases hverify
  · rintro ⟨n, key, hcheck, hkey, rfl⟩
    have hread := hrounds.mpr ⟨n, hcheck.rounds, hcheck.short, rfl⟩
    rw [StoredHash.verify_of_readInt h hread hcheck.key, hkey]
    rfl

/-- A password is checked without failing exactly against a text that is no hash and against a hash that can be
checked; it matches exactly the hashes that hold the key it has under their salt, in their number of rounds. -/
theorem verifyPassword_answers_iff (password stored : String) :
    ((∃ same, verifyPassword password stored = .ok same) ↔
      ∀ h : StoredHash, h.WrittenAs stored → ∃ n, h.Checkable password n) ∧
    (verifyPassword password stored = .ok true ↔
      ∃ (h : StoredHash) (n : Nat), h.WrittenAs stored ∧ Writes h.rounds n ∧ h.rounds.length ≤ maxDigits ∧ 1 ≤ n ∧
        deriveKey password h.salt n = .ok h.key) := by
  by_cases hhash : ∃ h : StoredHash, h.WrittenAs stored
  · obtain ⟨h, hwritten⟩ := hhash
    have hanswer := hwritten.verifyPassword_eq_ok_iff password
    refine ⟨⟨?_, ?_⟩, ⟨?_, ?_⟩⟩
    · rintro ⟨same, hsame⟩ h' hwritten'
      obtain ⟨n, -, hcheck, -⟩ := (hanswer same).mp hsame
      rw [hwritten.unique hwritten']
      exact ⟨n, hcheck⟩
    · intro hall
      obtain ⟨n, hcheck⟩ := hall h hwritten
      obtain ⟨key, hkey⟩ := hcheck.hasKey
      exact ⟨key == h.key, (hanswer _).mpr ⟨n, key, hcheck, hkey, rfl⟩⟩
    · intro hmatch
      obtain ⟨n, key, hcheck, hkey, hsame⟩ := (hanswer true).mp hmatch
      rw [eq_of_beq hsame.symm] at hkey
      exact ⟨h, n, hwritten, hcheck.rounds, hcheck.short, hcheck.low, hkey⟩
    · rintro ⟨h', n, hwritten', hrounds, hshort, -, hkey⟩
      obtain rfl := hwritten.unique hwritten'
      have hcheck := StoredHash.Checkable.of_key hrounds hshort hkey (key_of_deriveKey hkey).2
      exact (hanswer true).mpr ⟨n, h'.key, hcheck, hkey, (beq_self_eq_true _).symm⟩
  · have hno : ∀ h : StoredHash, ¬ h.WrittenAs stored := not_exists.mp hhash
    rw [verifyPassword_of_no_hash hno]
    refine ⟨⟨fun _ h hwritten => absurd hwritten (hno h), fun _ => ⟨false, rfl⟩⟩, ?_, ?_⟩
    · intro hmatch
      cases hmatch
    · rintro ⟨h, _, hwritten, -⟩
      exact absurd hwritten (hno h)

/-- Digits that stand for no number, and a number of rounds that is none, are no mismatch but a fault. -/
theorem odd_rounds_fail :
    verifyPassword "secret" "pbkdf2_sha256$²$abc$00" = .error (.value (.notWhole "²")) ∧
      verifyPassword "secret" "pbkdf2_sha256$0$abc$00" = .error (.value .fewRounds) := by
  decide +kernel

end Checks

end DocumentStore.Account
