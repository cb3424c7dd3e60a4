import Accounts.Password
import Accounts.Proofs.Base64
import Accounts.Proofs.Checks
import Accounts.Proofs.Text.Split
import Accounts.Proofs.Text.Utf8

/-!
# Stored passwords can be checked

The digest's text holds no period, and neither does a salt, so that the one between them is found
again. What is stored for a password is therefore readable: whatever password is tried, there is an
answer, as long as the password is a text.
-/

namespace Accounts.Password

open Text (codesOf IsText)

/-- Every password that is tried against a stored form gets an answer. Forms of payloads hold their
passwords as texts, so that no other ones are tried. -/
def Readable (stored : String) : Prop := ∀ password, IsText password →
  ∃ same, verify (some (codesOf stored.toList)) password = .ok same

/-! ## Digests -/

theorem digest_codesOf (password salt : List Char) :
    digest (codesOf password) (codesOf salt)
      = .ok (Digest.Sha3.sha3_256 (Text.Utf8.encode (password ++ salt))) := by
  rw [digest, ← Text.codesOf_append, Text.Utf8.encodeCodes?_codesOf]

theorem digest_of_isText {password salt : List Nat} (h : IsText (password ++ salt)) :
    ∃ octets, digest password salt = .ok octets := by
  rw [Text.isText_append] at h
  rw [← h.1.codesOf_map, ← h.2.codesOf_map, digest_codesOf]
  exact ⟨_, rfl⟩

theorem digest_of_not_isText {password salt : List Nat} (h : ¬IsText (password ++ salt)) :
    digest password salt = .error .surrogate := by
  rw [digest, Text.Utf8.encodeCodes?_of_not_isText h]

/-- What has a digest is a text. -/
theorem isText_of_digest {password salt : List Nat} {octets : List UInt8}
    (h : digest password salt = .ok octets) : IsText password ∧ IsText salt := by
  rw [← Text.isText_append]
  by_contra hnot
  rw [digest_of_not_isText hnot] at h
  cases h

/-! ## Stored forms -/

theorem hash_eq_ok {password salt : List Nat} {stored : String}
    (h : hash password salt = .ok stored) :
    separator.toNat ∉ salt ∧ ∃ octets, digest password salt = .ok octets
      ∧ stored = String.ofList (Base64.encode octets ++ separator :: salt.map Char.ofNat) := by
  unfold hash at h
  split at h
  · cases h
  · rename_i hsalt
    refine ⟨fun hmem => hsalt (List.contains_iff_mem.mpr hmem), ?_⟩
    obtain ⟨octets, hdigest, rfl⟩ := map_eq_ok_iff.mp h
    exact ⟨octets, hdigest, rfl⟩

/-- A stored form is taken apart again. -/
theorem parts?_of_hash {password salt : List Nat} {stored : String}
    (h : hash password salt = .ok stored) :
    ∃ octets, digest password salt = .ok octets
      ∧ parts? (codesOf stored.toList) = some (octets, salt) := by
  obtain ⟨hsalt, octets, hdigest, rfl⟩ := hash_eq_ok h
  have henc : separator.toNat ∉ codesOf (Base64.encode octets) := fun hmem =>
    Base64.not_mem_encode _ (Text.mem_codesOf.mp hmem)
  refine ⟨octets, hdigest, ?_⟩
  rw [parts?, String.toList_ofList, Text.codesOf_append, Text.codesOf_cons,
    (isText_of_digest hdigest).2.codesOf_map, Text.splitOn_append_sep henc,
    Text.splitOn_of_not_mem hsalt]
  simp only [Text.map_codesOf, Base64.decode?_encode, Option.map_some]

theorem verify_of_parts? {stored password salt : List Nat} {expected : List UInt8}
    (h : parts? stored = some (expected, salt)) :
    verify (some stored) password
      = ((digest password salt).map fun octets => expected == octets).mapError .crash := by
  cases stored with
  | nil => cases h
  | cons first rest =>
      unfold verify
      dsimp only
      rw [h]

/-- Either the credentials are wrong or there is a surrogate. -/
theorem failure_of_verify {stored : Option (List Nat)} {password : List Nat} {failure : Failure}
    (h : verify stored password = .error failure) :
    failure = .service (.unauthenticated .credentials) ∨ failure = .crash .surrogate := by
  unfold verify at h
  split at h
  · exact Or.inl (Except.error.inj h).symm
  · exact Or.inl (Except.error.inj h).symm
  · split at h
    · exact Or.inl (Except.error.inj h).symm
    · rename_i expected salt _
      unfold digest at h
      cases hcodes : Text.Utf8.encodeCodes? (password ++ salt) with
      | none =>
          rw [hcodes] at h
          exact Or.inr (Except.error.inj h).symm
      | some octets =>
          rw [hcodes] at h
          cases h

/-- A password that is tried passes if it has the digest of the stored one. -/
theorem verify_of_hash {password salt : List Nat} {stored : String}
    (h : hash password salt = .ok stored) {tried : List Nat} (htried : IsText tried) :
    ∃ same, verify (some (codesOf stored.toList)) tried = .ok same
      ∧ (same = true ↔ digest tried salt = digest password salt) := by
  obtain ⟨expected, hdigest, hparts⟩ := parts?_of_hash h
  obtain ⟨octets, hoctets⟩ :=
    digest_of_isText (Text.isText_append.mpr ⟨htried, (isText_of_digest hdigest).2⟩)
  refine ⟨expected == octets, ?_, ?_⟩
  · rw [verify_of_parts? hparts, hoctets]
    rfl
  · rw [hdigest, hoctets, beq_iff_eq, Except.ok.injEq]
    exact eq_comm

theorem readable_of_hash {password salt : List Nat} {stored : String}
    (h : hash password salt = .ok stored) : Readable stored := fun _ htried => by
  obtain ⟨same, hsame, -⟩ := verify_of_hash h htried
  exact ⟨same, hsame⟩

/-- What is stored is the form that some salt gives a password. -/
def Holds (stored password : String) : Prop :=
  ∃ salt, hash (codesOf password.toList) salt = .ok stored

theorem Holds.readable {stored password : String} (h : Holds stored password) :
    Readable stored := by
  obtain ⟨salt, hsalt⟩ := h
  exact readable_of_hash hsalt

/-! ## Salts -/

theorem separator_not_mem_saltOf (random : Nat) : separator ∉ saltOf random := by
  intro h
  have hdigit := Nat.isDigit_of_mem_toDigits (by decide) (by decide) (List.mem_of_mem_drop h)
  exact absurd hdigit (by decide)

theorem hash_of_not_mem {password salt : List Nat} (hsalt : separator.toNat ∉ salt) :
    hash password salt = (digest password salt).map fun octets =>
      String.ofList (Base64.encode octets ++ separator :: salt.map Char.ofNat) := by
  rw [hash, if_neg fun h => hsalt (List.contains_iff_mem.mp h)]

/-- With a salt made of a random number, every password has a stored form. -/
theorem hash_saltOf (password : List Char) (random : Nat) :
    ∃ stored, hash (codesOf password) (codesOf (saltOf random)) = .ok stored := by
  rw [hash_of_not_mem fun h => separator_not_mem_saltOf random (Text.mem_codesOf.mp h),
    digest_codesOf]
  exact ⟨_, rfl⟩

end Accounts.Password
