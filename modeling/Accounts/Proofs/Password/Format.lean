import Accounts.Proofs.Base64.Reading
import Accounts.Proofs.Password

/-!
# The format of stored passwords

What is stored for a password is one separator between a digest in strict base64 and a salt. Every
salt without the separator makes such a text, and checking a password against it comes down to
comparing digests. Conversely, whatever the digest is and whoever wrote it, a password is checked
against everything that has this form (`IsWellFormed`); all else gets the refusal that a wrong
password gets in the end.

There is one exception to both. A surrogate has no octets, so that there is no digest where one is
in the password or in the salt.
-/

namespace Accounts.Password

open Text (codesOf IsText Utf8.encode)
open Digest.Sha3 (sha3_256)

/-! ## Taking apart -/

/-- What can be checked against: one separator, with base64 in front of it, behind whose complete
groups there may be padding. -/
def IsWellFormed (stored : List Nat) : Prop :=
  stored.count separator.toNat = 1
    ∧ ∃ encoded, stored.takeWhile (· != separator.toNat) = codesOf encoded
      ∧ (Base64.IsStrict encoded ∨ Base64.IsOverpadded encoded)

/-- Whatever is read as base64 are code points of a text. -/
theorem isText_of_decode? {codes : List Nat}
    (h : (Base64.decode? (codes.map Char.ofNat)).isSome = true) : IsText codes := by
  have hread : ∀ c ∈ codes.map Char.ofNat, Base64.standard.Has c ∨ c = '=' := by
    have hbody : ∀ {body : List Char} {padding}, (∀ c ∈ body, Base64.standard.Has c) →
        ∀ c ∈ body ++ List.replicate padding '=', Base64.standard.Has c ∨ c = '=' :=
      fun hhas c hc => (List.mem_append.mp hc).imp (hhas c) List.eq_of_mem_replicate
    rcases (Base64.decode?_isSome_iff _).mp h with ⟨-, body, padding, htext, -, hhas⟩ |
      ⟨body, padding, htext, -, -, -, hhas⟩ <;> rw [htext] <;> exact hbody hhas
  intro code hcode
  -- A surrogate would be taken for the character zero, which is none of the alphabet.
  by_contra hsurrogate
  have hzero : Char.ofNat code = Char.ofNat 0 := by
    rw [Char.ofNat, dif_neg hsurrogate]
    rfl
  have hnone := hread _ (List.mem_map_of_mem hcode)
  rw [hzero] at hnone
  unfold Base64.Alphabet.Has at hnone
  revert hnone
  decide

theorem encoded_iff (codes : List Nat) :
    (Base64.decode? (codes.map Char.ofNat)).isSome = true ↔ ∃ encoded, codes = codesOf encoded
      ∧ (Base64.IsStrict encoded ∨ Base64.IsOverpadded encoded) := by
  constructor
  · intro h
    exact ⟨_, (isText_of_decode? h).codesOf_map.symm, (Base64.decode?_isSome_iff _).mp h⟩
  · rintro ⟨encoded, rfl, h⟩
    rw [Text.map_codesOf, Base64.decode?_isSome_iff]
    exact h

/-- What is stored is taken apart where it holds one separator behind base64. -/
theorem parts?_isSome_iff (stored : List Nat) :
    (parts? stored).isSome = true ↔ IsWellFormed stored := by
  unfold parts? IsWellFormed
  by_cases hmem : separator.toNat ∈ stored
  case neg =>
    rw [Text.splitOn_of_not_mem hmem, List.count_eq_zero.mpr hmem]
    simp
  obtain ⟨encoded, salt, rfl, hfree⟩ := List.eq_append_cons_of_mem hmem
  rw [Text.splitOn_append_sep hfree, Text.takeWhile_ne_append hfree, List.count_append,
    List.count_eq_zero.mpr hfree, List.count_cons_self, ← encoded_iff]
  by_cases hsalt : separator.toNat ∈ salt
  · -- A second separator makes a third field.
    have hcount : 0 < salt.count separator.toNat := List.count_pos_iff.mpr hsalt
    have hlength := Text.length_splitOn separator.toNat salt
    split
    · rename_i hfields
      rw [(List.cons.inj hfields).2, List.length_singleton] at hlength
      omega
    · refine iff_of_false Bool.false_ne_true fun ⟨hone, _⟩ => ?_
      omega
  · rw [Text.splitOn_of_not_mem hsalt, List.count_eq_zero.mpr hsalt]
    simp

/-- What is stored is a text where the salt is one. -/
theorem isText_iff_of_parts? {stored salt : List Nat} {expected : List UInt8}
    (h : parts? stored = some (expected, salt)) : IsText stored ↔ IsText salt := by
  unfold parts? at h
  split at h
  case h_2 => cases h
  rename_i encoded tail hfields
  obtain ⟨octets, hoctets, hparts⟩ := Option.map_eq_some_iff.mp h
  obtain rfl : tail = salt := (Prod.mk.inj hparts).2
  have hencoded : IsText encoded := isText_of_decode? (by rw [hoctets]; rfl)
  have hstored : stored = encoded ++ separator.toNat :: tail := by
    rw [← Text.intercalate_splitOn separator.toNat stored, hfields, List.intercalate_cons_cons,
      List.intercalate_singleton, List.append_assoc]
    rfl
  have hseparator : separator.toNat.isValidChar := separator.valid
  rw [hstored, Text.isText_append, IsText, IsText, IsText, List.forall_mem_cons]
  exact ⟨fun ⟨_, _, htail⟩ => htail, fun htail => ⟨hencoded, hseparator, htail⟩⟩

/-! ## The form that a password is stored in -/

theorem hash_of_mem {password salt : List Nat} (h : separator.toNat ∈ salt) :
    hash password salt = .error (.value "Salt must not contain the separator") := by
  rw [hash, if_pos (List.contains_iff_mem.mpr h)]

/-- One separator stands between the digest and a salt without any. -/
theorem count_of_hash {password salt : List Nat} {stored : String}
    (h : hash password salt = .ok stored) : stored.toList.count separator = 1 := by
  obtain ⟨hsalt, octets, hdigest, rfl⟩ := hash_eq_ok h
  have hencoded : separator ∉ Base64.encode octets := Base64.not_mem_encode _
  have hfree : separator ∉ salt.map Char.ofNat := by
    intro hmem
    rw [← Text.mem_codesOf, (isText_of_digest hdigest).2.codesOf_map] at hmem
    exact hsalt hmem
  rw [String.toList_ofList, List.count_append, List.count_eq_zero.mpr hencoded,
    List.count_cons_self, List.count_eq_zero.mpr hfree]

theorem isDigit_of_mem_saltOf {random : Nat} {c : Char} (h : c ∈ saltOf random) :
    c.isDigit = true :=
  Nat.isDigit_of_mem_toDigits (by decide) (by decide) (List.mem_of_mem_drop h)

/-- What becomes of a check: the credentials are wrong where nothing in the right form is stored,
there is an answer for texts, and the check breaks off where a surrogate is to be encoded. -/
theorem verify_cases (stored : Option (List Nat)) (tried : List Nat) :
    ((¬∃ codes, stored = some codes ∧ IsWellFormed codes)
        ∧ verify stored tried = .error (.service (.unauthenticated .credentials)))
      ∨ ∃ codes, stored = some codes ∧ IsWellFormed codes
        ∧ (IsText codes ∧ IsText tried ∧ (∃ same, verify stored tried = .ok same)
          ∨ ¬(IsText codes ∧ IsText tried) ∧ verify stored tried = .error (.crash .surrogate)) := by
  cases stored with
  | none => exact Or.inl ⟨by simp, rfl⟩
  | some codes =>
      cases hparts : parts? codes with
      | none =>
          refine Or.inl ⟨?_, ?_⟩
          · rintro ⟨_, ⟨⟩, hformed⟩
            rw [← parts?_isSome_iff, hparts] at hformed
            cases hformed
          · unfold verify
            split
            · rfl
            · rfl
            · rename_i heq
              cases heq
              rw [hparts]
      | some parts =>
          have hformed : IsWellFormed codes := (parts?_isSome_iff codes).mp (by rw [hparts]; rfl)
          refine Or.inr ⟨codes, rfl, hformed, ?_⟩
          rw [verify_of_parts? hparts, isText_iff_of_parts? hparts]
          by_cases htext : IsText tried ∧ IsText parts.2
          · obtain ⟨octets, hoctets⟩ := digest_of_isText (Text.isText_append.mpr htext)
            rw [hoctets]
            exact Or.inl ⟨htext.2, htext.1, _, rfl⟩
          · rw [digest_of_not_isText fun h => htext (Text.isText_append.mp h)]
            exact Or.inr ⟨fun h => htext h.symm, rfl⟩

/-- **The format of stored passwords.** Every password has a stored form with every salt that holds
no separator, the empty one too; it holds one separator, and a password that is tried against it
passes if its digest with the salt is the same. With any other salt there is no stored form. The
salts made of random numbers are digits, so that a new password always gets one.

Checking a password against whatever is stored, or nothing, is refused with wrong credentials
exactly where that does not have the format. Where it has, there is an answer if both are texts. A
surrogate in either of them, as one in a new password or its salt, has no octets, and the digest
fails with an error of its own. -/
theorem password_format (password salt : List Nat) (random : Nat) (stored : Option (List Nat))
    (tried : List Nat) :
    (∀ p s : List Char, separator ∉ s → ∃ form,
        hash (codesOf p) (codesOf s) = .ok form ∧ form.toList.count separator = 1
          ∧ ∀ q : List Char, ∃ same, verify (some (codesOf form.toList)) (codesOf q) = .ok same
            ∧ (same = true ↔
              sha3_256 (Utf8.encode (q ++ s)) = sha3_256 (Utf8.encode (p ++ s))))
      ∧ (separator.toNat ∈ salt →
        hash password salt = .error (.value "Salt must not contain the separator"))
      ∧ (separator.toNat ∉ salt →
        (hash password salt = .error .surrogate ↔ ¬(IsText password ∧ IsText salt)))
      ∧ (∀ c ∈ saltOf random, c.isDigit = true)
      ∧ (∀ p : List Char, ∃ form, hash (codesOf p) (codesOf (saltOf random)) = .ok form)
      ∧ (verify stored tried = .error (.service (.unauthenticated .credentials)) ↔
          ¬∃ codes, stored = some codes ∧ IsWellFormed codes)
      ∧ (verify stored tried = .error (.crash .surrogate) ↔
          ∃ codes, stored = some codes ∧ IsWellFormed codes ∧ ¬(IsText codes ∧ IsText tried))
      ∧ ((∃ same, verify stored tried = .ok same) ↔
          ∃ codes, stored = some codes ∧ IsWellFormed codes ∧ IsText codes ∧ IsText tried) := by
  refine ⟨fun p s hsalt => ?_, hash_of_mem, fun hsalt => ?_, fun _ => isDigit_of_mem_saltOf,
    fun p => hash_saltOf p random, ?_⟩
  · have hform : hash (codesOf p) (codesOf s) = .ok (String.ofList
        (Base64.encode (sha3_256 (Utf8.encode (p ++ s))) ++ separator :: s)) := by
      rw [hash_of_not_mem fun h => hsalt (Text.mem_codesOf.mp h), digest_codesOf, Text.map_codesOf]
      rfl
    refine ⟨_, hform, count_of_hash hform, fun q => ?_⟩
    obtain ⟨same, hsame, hiff⟩ := verify_of_hash hform (Text.isText_codesOf q)
    rw [digest_codesOf, digest_codesOf, Except.ok.injEq] at hiff
    exact ⟨same, hsame, hiff⟩
  · rw [hash_of_not_mem hsalt, ← Text.isText_append]
    by_cases htext : IsText (password ++ salt)
    · obtain ⟨octets, hoctets⟩ := digest_of_isText htext
      rw [hoctets]
      exact iff_of_false (fun h => nomatch h) (not_not_intro htext)
    · rw [digest_of_not_isText htext]
      exact iff_of_true rfl htext
  · rcases verify_cases stored tried with ⟨hnone, hverify⟩ |
      ⟨codes, rfl, hformed, ⟨hcodes, htried, same, hverify⟩ | ⟨hnot, hverify⟩⟩
    · have hno : ∀ p : List Nat → Prop,
          ¬∃ codes, stored = some codes ∧ IsWellFormed codes ∧ p codes :=
        fun _ ⟨codes, hcodes, hformed, _⟩ => hnone ⟨codes, hcodes, hformed⟩
      rw [hverify]
      exact ⟨iff_of_true rfl hnone, iff_of_false (fun h => nomatch h) (hno _),
        iff_of_false (fun ⟨_, h⟩ => nomatch h) (hno _)⟩
    · rw [hverify]
      refine ⟨iff_of_false (fun h => nomatch h) (not_not_intro ⟨codes, rfl, hformed⟩),
        iff_of_false (fun h => nomatch h) ?_,
        iff_of_true ⟨same, rfl⟩ ⟨codes, rfl, hformed, hcodes, htried⟩⟩
      rintro ⟨_, ⟨⟩, -, hnot⟩
      exact hnot ⟨hcodes, htried⟩
    · rw [hverify]
      refine ⟨iff_of_false (fun h => nomatch h) (not_not_intro ⟨codes, rfl, hformed⟩),
        iff_of_true rfl ⟨codes, rfl, hformed, hnot⟩, iff_of_false (fun ⟨_, h⟩ => nomatch h) ?_⟩
      rintro ⟨_, ⟨⟩, -, htext⟩
      exact hnot htext

/-- With the empty salt a password passes against its own stored form. A text with two separators is
no stored form. Behind the separator a surrogate breaks the check off. -/
theorem password_format_of_empty_salt :
    (∃ stored, hash (codesOf "password1".toList) [] = .ok stored
        ∧ stored.toList.count separator = 1
        ∧ verify (some (codesOf stored.toList)) (codesOf "password1".toList) = .ok true)
      ∧ verify (some (codesOf "too.many.parts".toList)) (codesOf "password1".toList)
        = .error (.service (.unauthenticated .credentials))
      ∧ verify (some (codesOf "AAAA.".toList ++ [0xD800])) (codesOf "p".toList)
        = .error (.crash .surrogate) := by
  have hformat := password_format [] [] 0
  obtain ⟨-, -, -, -, -, hrefused, -⟩ :=
    hformat (some (codesOf "too.many.parts".toList)) (codesOf "password1".toList)
  obtain ⟨hhashed, -, -, -, -, -, hcrash, -⟩ :=
    hformat (some (codesOf "AAAA.".toList ++ [0xD800])) (codesOf "p".toList)
  refine ⟨?_, hrefused.mpr ?_, hcrash.mpr ⟨_, rfl, ⟨by decide, ?_⟩, by decide⟩⟩
  · obtain ⟨stored, hhash, hcount, hverify⟩ := hhashed "password1".toList [] List.not_mem_nil
    obtain ⟨same, hsame, hiff⟩ := hverify "password1".toList
    rw [hiff.mpr rfl] at hsame
    exact ⟨stored, hhash, hcount, hsame⟩
  · rintro ⟨codes, hcodes, hcount, -⟩
    obtain rfl := Option.some.inj hcodes
    exact absurd hcount (by decide)
  · refine ⟨"AAAA".toList, by decide, Or.inl ⟨rfl, "AAAA".toList, 0, rfl, Nat.zero_le 2, ?_⟩⟩
    intro c hc
    obtain rfl : c = 'A' := List.eq_of_mem_replicate (n := 4) hc
    exact Or.inl rfl

end Accounts.Password
