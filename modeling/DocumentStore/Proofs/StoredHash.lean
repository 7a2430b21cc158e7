/-
  DocumentStore.Proofs.StoredHash — a stored hash is checked with the salt and the rounds that it was
  made with.

  Nothing is lost in the text of a hash: what is read of it is what it is written from, a salt that is not
  empty and holds no `$` between the rounds and the key (`read?_eq_some_iff`), and the rounds are read as the
  number that they were written for (`read?_hashText`). And where one password has a key, under a salt and so
  many rounds, every password has one that can be written in octets (`deriveKey_cases`). So a password is told
  from the one that was stored by its key, and by nothing else (`verifyPassword_hashText`,
  `stored_hash_loses_nothing`).
-/

import DocumentStore.Account.Password
import DocumentStore.Proofs.Result
import DocumentStore.Proofs.Text

namespace DocumentStore.Account

open Decimal

/-! ## The text of a hash -/

section Text

variable {stored salt key : String} {before after : List Char}

theorem splitField_append (h : '$' ∉ before) (after : List Char) :
    splitField (before ++ '$' :: after) = (before, after) := by
  rw [splitField, Text.cut_append h, Option.getD_some]

/-- Something follows a field only after a `$`, which the field does not hold. -/
theorem eq_of_splitField {cs : List Char} (h : splitField cs = (before, after)) (hne : after ≠ []) :
    '$' ∉ before ∧ cs = before ++ '$' :: after := by
  rw [splitField] at h
  cases hcut : Text.cut '$' cs with
  | none =>
    rw [hcut] at h
    cases h
    exact absurd rfl hne
  | some parts =>
    rw [hcut, Option.getD_some] at h
    rw [h] at hcut
    exact ⟨Text.not_mem_of_cut hcut, Text.eq_of_cut hcut⟩

/-- The text is a hash of the scheme with these parts: digits for its rounds, a salt without `$` and a key. -/
structure StoredHash.WrittenAs (h : StoredHash) (stored : String) : Prop where
  text : stored = hashScheme ++ "$" ++ h.rounds ++ "$" ++ h.salt ++ "$" ++ h.key
  rounds : h.rounds ≠ ""
  digits : ∀ c ∈ h.rounds.toList, Text.isDigit c = true
  salt : h.salt ≠ ""
  free : '$' ∉ h.salt.toList
  key : h.key ≠ ""

theorem StoredHash.toList_text (h : StoredHash) :
    (hashScheme ++ "$" ++ h.rounds ++ "$" ++ h.salt ++ "$" ++ h.key).toList =
      hashScheme.toList ++ '$' :: (h.rounds.toList ++ '$' :: (h.salt.toList ++ '$' :: h.key.toList)) := by
  simp [String.toList_append]

/-- What is read of a stored text is what it is written from. -/
theorem StoredHash.read?_eq_some_iff {h : StoredHash} : StoredHash.read? stored = some h ↔ h.WrittenAs stored := by
  constructor
  · intro hread
    rw [StoredHash.read?] at hread
    rcases hfirst : splitField stored.toList with ⟨scheme, rest⟩
    rcases hsecond : splitField rest with ⟨rounds, rest'⟩
    rcases hthird : splitField rest' with ⟨salt, key⟩
    simp only [hfirst, hsecond, hthird] at hread
    split at hread
    · rename_i hparts
      obtain ⟨rfl, hrounds, hdigits, hsalt, hkey⟩ := hparts
      cases hread
      simp only [Bool.not_eq_true', List.isEmpty_eq_false_iff] at hrounds hsalt hkey
      obtain ⟨hfree, rfl⟩ := eq_of_splitField hthird hkey
      obtain ⟨-, rfl⟩ := eq_of_splitField hsecond (by simp)
      obtain ⟨-, htext⟩ := eq_of_splitField hfirst (by simp)
      exact {
        text := by
          rw [← String.toList_inj, htext, StoredHash.toList_text]
          simp only [String.toList_ofList]
        rounds := by simpa using hrounds
        digits := by simpa using hdigits
        salt := by simpa using hsalt
        free := by simpa using hfree
        key := by simpa using hkey }
    · cases hread
  · intro hwritten
    have hdollar : '$' ∉ h.rounds.toList := fun hmem => absurd (hwritten.digits '$' hmem) (by decide +kernel)
    rw [StoredHash.read?, hwritten.text, StoredHash.toList_text, splitField_append (by decide)]
    dsimp only
    rw [splitField_append hdollar]
    dsimp only
    rw [splitField_append hwritten.free]
    dsimp only
    rw [if_pos]
    · simp only [String.ofList_toList]
    · simpa [hwritten.rounds, hwritten.salt, hwritten.key] using hwritten.digits

theorem writtenAs_hashText (n : Nat) (hsalt : salt ≠ "") (hfree : '$' ∉ salt.toList) (hkey : key ≠ "") :
    StoredHash.WrittenAs ⟨intText n, salt, key⟩ (hashText n salt key) where
  text := rfl
  rounds := intText_ne_empty n
  digits _ hc := (isPlain_of_mem_intText hc).isDigit
  salt := hsalt
  free := hfree
  key := hkey

end Text

/-! ## Keys -/

section Keys

variable {password salt key : String} {rounds : Int}

theorem octets_eq_ok {text : String} {bytes : List UInt8} (h : octets text = .ok bytes) :
    Text.isEncodable text.toList = true ∧ bytes = utf8 text := by
  unfold octets at h
  split at h
  · rename_i hencodable
    exact ⟨hencodable, (Except.ok.inj h).symm⟩
  · cases h

/-- A key is derived from texts with octets in a number of rounds within bounds, and from nothing else. -/
theorem deriveKey_eq_ok_iff :
    deriveKey password salt rounds = .ok key ↔
      Text.isEncodable password.toList = true ∧ Text.isEncodable salt.toList = true ∧ 1 ≤ rounds ∧ rounds ≤ maxRounds ∧
        key = (Digest.derive (utf8 password) (utf8 salt) (rounds - 1).toNat).hexText := by
  have hmax : maxRounds < twoTo 63 := by decide
  constructor
  · intro h
    obtain ⟨_, hoctets, h⟩ := Result.bind_eq_ok.mp h
    obtain ⟨hpassword, rfl⟩ := octets_eq_ok hoctets
    obtain ⟨_, hoctets', h⟩ := Result.bind_eq_ok.mp h
    obtain ⟨hsalt, rfl⟩ := octets_eq_ok hoctets'
    split at h
    · cases h
    split at h
    · cases h
    split at h
    · cases h
    · exact ⟨hpassword, hsalt, by omega, by omega, (Except.ok.inj h).symm⟩
  · rintro ⟨hpassword, hsalt, hlow, hhigh, rfl⟩
    unfold deriveKey octets
    rw [if_pos hpassword, if_pos hsalt]
    show (if _ then _ else _) = _
    rw [if_neg (by omega), if_neg (by omega), if_neg (by omega)]

/-- Where one password has a key, every other has one unless it has no octets. -/
theorem deriveKey_cases (h : deriveKey password salt rounds = .ok key) (other : String) :
    (Text.isEncodable other.toList = true ∧ ∃ key', deriveKey other salt rounds = .ok key') ∨
      (Text.isEncodable other.toList = false ∧ deriveKey other salt rounds = .error (.unencodable other)) := by
  obtain ⟨-, hsalt, hlow, hhigh, -⟩ := deriveKey_eq_ok_iff.mp h
  by_cases hencodable : Text.isEncodable other.toList = true
  · exact Or.inl ⟨hencodable, _, deriveKey_eq_ok_iff.mpr ⟨hencodable, hsalt, hlow, hhigh, rfl⟩⟩
  · refine Or.inr ⟨Bool.eq_false_iff.mpr hencodable, ?_⟩
    rw [deriveKey, octets, if_neg hencodable]
    rfl

theorem key_of_deriveKey (h : deriveKey password salt rounds = .ok key) :
    key ≠ "" ∧ key.toList.all (·.toNat < 128) = true := by
  obtain ⟨-, -, -, -, rfl⟩ := deriveKey_eq_ok_iff.mp h
  exact ⟨Digest.hexText_ne_empty _, List.all_eq_true.mpr fun c hc => decide_eq_true (Digest.hexText_ascii hc)⟩

/-- Keys are compared if the rounds are a number and the stored key is plain. -/
theorem StoredHash.verify_of_readInt (h : StoredHash) (hrounds : readInt h.rounds = .ok rounds)
    (hascii : h.key.toList.all (·.toNat < 128) = true) (password : String) :
    h.verify password = (deriveKey password h.salt rounds).map (· == h.key) := by
  simp only [StoredHash.verify, Failure.readWhole, hrounds, hascii, if_true]
  cases deriveKey password h.salt rounds <;> rfl

theorem length_intText_le {n : Nat} (hn : (n : Int) ≤ maxRounds) : (intText n).length ≤ maxDigits := by
  have hmax : maxRounds < (10 ^ 10 : Nat) := by decide
  have hlength : (Nat.toDigits 10 n).length ≤ 10 :=
    (Nat.length_toDigits_le_iff (by decide) (by decide)).mpr (by omega)
  rw [← String.length_toList, toList_intText]
  exact Nat.le_trans hlength (by decide)

/-- What is read of a hash are the parts that it was made from. -/
theorem read?_hashText (hsalt : salt ≠ "") (hfree : '$' ∉ salt.toList) (h : deriveKey password salt rounds = .ok key) :
    StoredHash.read? (hashText rounds salt key) = some ⟨intText rounds, salt, key⟩ ∧
      readInt (intText rounds) = .ok rounds := by
  obtain ⟨hkey, -⟩ := key_of_deriveKey h
  obtain ⟨-, -, hlow, hhigh, -⟩ := deriveKey_eq_ok_iff.mp h
  obtain ⟨n, rfl⟩ := Int.eq_ofNat_of_zero_le (show 0 ≤ rounds by omega)
  exact ⟨StoredHash.read?_eq_some_iff.mpr (writtenAs_hashText n hsalt hfree hkey),
    readInt_intText (length_intText_le hhigh)⟩

/-- A password is told from the one that was stored by its key. -/
theorem verifyPassword_hashText (hsalt : salt ≠ "") (hfree : '$' ∉ salt.toList)
    (h : deriveKey password salt rounds = .ok key) (other : String) :
    verifyPassword other (hashText rounds salt key) = (deriveKey other salt rounds).map (· == key) := by
  obtain ⟨hread, hrounds⟩ := read?_hashText hsalt hfree h
  rw [verifyPassword, hread]
  exact StoredHash.verify_of_readInt ⟨intText rounds, salt, key⟩ hrounds (key_of_deriveKey h).2 other

/-- The text of a hash loses nothing. A password is found to match a hash exactly if it has the key that the hash
was made with, under the same salt in as many rounds. For the hash is read as the rounds, the salt and the key
that it was made from, and any password is checked by comparing its key with that one. -/
theorem stored_hash_loses_nothing (hsalt : salt ≠ "") (hfree : '$' ∉ salt.toList) (password other : String)
    (rounds : Int) :
    ((hashPassword password salt rounds).bind (verifyPassword other) = .ok true ↔
      ∃ key, deriveKey password salt rounds = .ok key ∧ deriveKey other salt rounds = .ok key) ∧
    ∀ key, deriveKey password salt rounds = .ok key →
      hashPassword password salt rounds = .ok (hashText rounds salt key) ∧
      StoredHash.read? (hashText rounds salt key) = some ⟨intText rounds, salt, key⟩ ∧
      readInt (intText rounds) = .ok rounds ∧
      ∀ key', deriveKey other salt rounds = .ok key' →
        verifyPassword other (hashText rounds salt key) = .ok (key' == key) := by
  have hhash {key : String} (hkey : deriveKey password salt rounds = .ok key) :
      hashPassword password salt rounds = .ok (hashText rounds salt key) := by
    unfold hashPassword
    exact Result.map_eq_ok.mpr ⟨key, hkey, rfl⟩
  have hcheck {key key' : String} (hkey : deriveKey password salt rounds = .ok key)
      (hkey' : deriveKey other salt rounds = .ok key') :
      verifyPassword other (hashText rounds salt key) = .ok (key' == key) := by
    rw [verifyPassword_hashText hsalt hfree hkey]
    exact Result.map_eq_ok.mpr ⟨key', hkey', rfl⟩
  refine ⟨⟨fun hmatch => ?_, ?_⟩, fun key hkey => ?_⟩
  · obtain ⟨stored, hstored, hverify⟩ := Result.bind_eq_ok.mp hmatch
    obtain ⟨key, hkey, rfl⟩ := Result.map_eq_ok.mp hstored
    rw [verifyPassword_hashText hsalt hfree hkey] at hverify
    obtain ⟨key', hkey', hsame⟩ := Result.map_eq_ok.mp hverify
    rw [eq_of_beq hsame] at hkey'
    exact ⟨key, hkey, hkey'⟩
  · rintro ⟨key, hkey, hkey'⟩
    have hmatch := hcheck hkey hkey'
    rw [beq_self_eq_true] at hmatch
    exact Result.bind_eq_ok.mpr ⟨_, hhash hkey, hmatch⟩
  · obtain ⟨hread, hrounds⟩ := read?_hashText hsalt hfree hkey
    exact ⟨hhash hkey, hread, hrounds, fun key' hkey' => hcheck hkey hkey'⟩

/-- A hash in a thousand rounds, and its password found to match. -/
theorem stored_hash_loses_nothing_secret : ∃ key,
    "abc" ≠ "" ∧ '$' ∉ "abc".toList ∧
      hashPassword "secret" "abc" 1000 = .ok ("pbkdf2_sha256$1000$abc$" ++ key) ∧
      StoredHash.read? ("pbkdf2_sha256$1000$abc$" ++ key) = some ⟨"1000", "abc", key⟩ ∧
      verifyPassword "secret" ("pbkdf2_sha256$1000$abc$" ++ key) = .ok true ∧
      (hashPassword "secret" "abc" 1000).bind (verifyPassword "secret") = .ok true := by
  obtain ⟨key, hkey⟩ : ∃ key, deriveKey "secret" "abc" 1000 = .ok key :=
    ⟨_, deriveKey_eq_ok_iff.mpr ⟨by decide, by decide, by decide, by decide, rfl⟩⟩
  have htext : hashText 1000 "abc" key = "pbkdf2_sha256$1000$abc$" ++ key := by
    simp only [hashText, ← String.toList_inj, String.toList_append]
    rfl
  have hsalt : "abc" ≠ "" := by decide
  have hfree : '$' ∉ "abc".toList := by decide
  obtain ⟨hmatch, hparts⟩ := stored_hash_loses_nothing hsalt hfree "secret" "secret" 1000
  obtain ⟨hhash, hread, -, hcheck⟩ := hparts key hkey
  have hcheck := hcheck key hkey
  rw [beq_self_eq_true] at hcheck
  rw [htext] at hhash hread hcheck
  exact ⟨key, hsalt, hfree, hhash, hread, hcheck, hmatch.mpr ⟨key, hkey, hkey⟩⟩

end Keys

end DocumentStore.Account
