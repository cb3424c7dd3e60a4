import Accounts.Text.Utf8

/-!
# Code points and octets

A list of code points is a text unless a surrogate is among them (`IsText`). Texts are told by their
code points, and the code points of texts are those that can be encoded.
-/

namespace Accounts.Text

@[simp] theorem codesOf_cons (c : Char) (text : List Char) :
    codesOf (c :: text) = c.toNat :: codesOf text := rfl

@[simp] theorem codesOf_append (text more : List Char) :
    codesOf (text ++ more) = codesOf text ++ codesOf more := List.map_append

theorem isText_append {codes more : List Nat} :
    IsText (codes ++ more) ↔ IsText codes ∧ IsText more := List.forall_mem_append

theorem isText_codesOf (text : List Char) : IsText (codesOf text) := by
  intro code hcode
  obtain ⟨c, -, rfl⟩ := List.mem_map.mp hcode
  exact c.valid

theorem toNat_ofNat {code : Nat} (h : code.isValidChar) : (Char.ofNat code).toNat = code := by
  rw [Char.ofNat, dif_pos h]
  rfl

/-- Code points that make a text are those of the text. -/
theorem IsText.codesOf_map {codes : List Nat} (h : IsText codes) :
    codesOf (codes.map Char.ofNat) = codes := by
  rw [codesOf, List.map_map]
  exact (List.map_congr_left fun code hcode => toNat_ofNat (h code hcode)).trans (List.map_id codes)

theorem map_codesOf (text : List Char) : (codesOf text).map Char.ofNat = text := by
  rw [codesOf, List.map_map, show Char.ofNat ∘ Char.toNat = id from funext Char.ofNat_toNat,
    List.map_id]

theorem mem_codesOf {c : Char} {text : List Char} : c.toNat ∈ codesOf text ↔ c ∈ text := by
  refine ⟨fun h => ?_, List.mem_map_of_mem⟩
  obtain ⟨d, hd, hsame⟩ := List.mem_map.mp h
  rwa [← Char.ofNat_toNat c, ← hsame, Char.ofNat_toNat]

namespace Utf8

theorem encodeCodes?_codesOf (text : List Char) :
    encodeCodes? (codesOf text) = some (encode text) := by
  rw [encodeCodes?, if_pos (isText_codesOf text), codesOf, List.flatMap_map]
  rfl

theorem encodeCodes?_of_not_isText {codes : List Nat} (h : ¬IsText codes) :
    encodeCodes? codes = none := if_neg h

theorem length_encodeCode_pos (code : Nat) : 0 < (encodeCode code).length := by
  unfold encodeCode
  split
  · exact Nat.zero_lt_succ _
  · split
    · exact Nat.zero_lt_succ _
    · split <;> exact Nat.zero_lt_succ _

theorem length_le_encode (text : List Char) : text.length ≤ (encode text).length := by
  induction text with
  | nil => exact Nat.le_refl _
  | cons c rest ih =>
      have hcode := length_encodeCode_pos c.toNat
      rw [encode, List.flatMap_cons, ← encode, List.length_append, List.length_cons]
      omega

end Utf8

end Accounts.Text
