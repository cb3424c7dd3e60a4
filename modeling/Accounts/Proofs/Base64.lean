import Accounts.Base64

/-!
# Reading base64 back

Both sides of the code speak of six-bit values: a text is the characters of the values of its
octets (`encodeUnpadded_eq`), the values of the characters are these values again
(`Alphabet.IsReadable`), and the octets of the values are the octets (`octetsOf?_sextets`). Padding
is no character of a value, so it is told apart from the text.
-/

namespace Accounts.Base64

/-- The six-bit values of an octet sequence; the last one is filled up with zeros. -/
def sextets : List UInt8 → List Nat
  | [] => []
  | [a] => [a.toNat / 4, a.toNat % 4 * 16]
  | [a, b] => [a.toNat / 4, a.toNat % 4 * 16 + b.toNat / 16, b.toNat % 16 * 4]
  | a :: b :: c :: rest =>
    [a.toNat / 4, a.toNat % 4 * 16 + b.toNat / 16, b.toNat % 16 * 4 + c.toNat / 64,
      c.toNat % 64] ++ sextets rest

theorem encodeUnpadded_eq (alphabet : Alphabet) (octets : List UInt8) :
    encodeUnpadded alphabet octets = (sextets octets).map alphabet.char := by
  induction octets using sextets.induct with
  | case1 => rfl
  | case2 a => rfl
  | case3 a b => rfl
  | case4 a b c rest ih => rw [encodeUnpadded, sextets, List.map_append, ih]

theorem sextets_lt {octets : List UInt8} {n : Nat} (h : n ∈ sextets octets) : n < 64 := by
  induction octets using sextets.induct with
  | case1 => cases h
  | case2 a =>
      have := a.toNat_lt
      simp only [sextets, List.mem_cons, List.not_mem_nil, or_false] at h
      omega
  | case3 a b =>
      have := a.toNat_lt
      have := b.toNat_lt
      simp only [sextets, List.mem_cons, List.not_mem_nil, or_false] at h
      omega
  | case4 a b c rest ih =>
      have := a.toNat_lt
      have := b.toNat_lt
      have := c.toNat_lt
      simp only [sextets, List.mem_append, List.mem_cons, List.not_mem_nil, or_false] at h
      rcases h with h | h
      · omega
      · exact ih h

/-- The octets of the values, and no spare bits. -/
theorem octetsOf?_sextets (octets : List UInt8) :
    octetsOf? (sextets octets) = some (octets, 0) := by
  induction octets using sextets.induct with
  | case1 => rfl
  | case2 a =>
      have ha : (a.toNat / 4 * 4 + a.toNat % 4 * 16 / 16).toUInt8 = a :=
        UInt8.toNat_inj.mp (by
          have := a.toNat_lt
          simp only [Nat.toUInt8, UInt8.toNat_ofNat']
          omega)
      rw [sextets, octetsOf?, ha, Nat.mul_mod_left]
  | case3 a b =>
      have := a.toNat_lt
      have := b.toNat_lt
      have ha : (a.toNat / 4 * 4 + (a.toNat % 4 * 16 + b.toNat / 16) / 16).toUInt8 = a :=
        UInt8.toNat_inj.mp (by simp only [Nat.toUInt8, UInt8.toNat_ofNat']; omega)
      have hb : ((a.toNat % 4 * 16 + b.toNat / 16) % 16 * 16 + b.toNat % 16 * 4 / 4).toUInt8 = b :=
        UInt8.toNat_inj.mp (by simp only [Nat.toUInt8, UInt8.toNat_ofNat']; omega)
      rw [sextets, octetsOf?, ha, hb, Nat.mul_mod_left]
  | case4 a b c rest ih =>
      have := a.toNat_lt
      have := b.toNat_lt
      have := c.toNat_lt
      have ha : (a.toNat / 4 * 4 + (a.toNat % 4 * 16 + b.toNat / 16) / 16).toUInt8 = a :=
        UInt8.toNat_inj.mp (by simp only [Nat.toUInt8, UInt8.toNat_ofNat']; omega)
      have hb : ((a.toNat % 4 * 16 + b.toNat / 16) % 16 * 16
          + (b.toNat % 16 * 4 + c.toNat / 64) / 4).toUInt8 = b :=
        UInt8.toNat_inj.mp (by simp only [Nat.toUInt8, UInt8.toNat_ofNat']; omega)
      have hc : ((b.toNat % 16 * 4 + c.toNat / 64) % 4 * 64 + c.toNat % 64).toUInt8 = c :=
        UInt8.toNat_inj.mp (by simp only [Nat.toUInt8, UInt8.toNat_ofNat']; omega)
      rw [sextets, List.cons_append, List.cons_append, List.cons_append, List.cons_append,
        List.nil_append, octetsOf?, ih, Option.map_some, ha, hb, hc]

/-! ## Characters -/

/-- Every value has a character of its own, which is neither padding nor a period. -/
structure Alphabet.IsReadable (alphabet : Alphabet) : Prop where
  value?_char : ∀ n : Fin 64, alphabet.value? (alphabet.char n) = some n.val
  char_ne : ∀ n : Fin 64, alphabet.char n ≠ '=' ∧ alphabet.char n ≠ '.'

theorem standard_isReadable : standard.IsReadable := ⟨by decide, by decide⟩

theorem addressSafe_isReadable : addressSafe.IsReadable := ⟨by decide, by decide⟩

variable {alphabet : Alphabet}

theorem mem_encodeUnpadded (ha : alphabet.IsReadable) {octets : List UInt8} {c : Char}
    (h : c ∈ encodeUnpadded alphabet octets) : c ≠ '=' ∧ c ≠ '.' := by
  rw [encodeUnpadded_eq, List.mem_map] at h
  obtain ⟨n, hn, rfl⟩ := h
  exact ha.char_ne ⟨n, sextets_lt hn⟩

theorem not_mem_encode (octets : List UInt8) : '.' ∉ encode octets := by
  intro h
  rcases List.mem_append.mp h with h | h
  · exact (mem_encodeUnpadded standard_isReadable h).2 rfl
  · exact absurd (List.eq_of_mem_replicate h) (by decide)

theorem mapM_value?_encodeUnpadded (ha : alphabet.IsReadable) (octets : List UInt8) :
    (encodeUnpadded alphabet octets).mapM alphabet.value? = some (sextets octets) := by
  rw [encodeUnpadded_eq]
  have hlt : ∀ n ∈ sextets octets, n < 64 := fun n => sextets_lt
  generalize sextets octets = values at hlt
  induction values with
  | nil => rfl
  | cons n rest ih =>
      rw [List.map_cons, List.mapM_cons, ha.value?_char ⟨n, hlt n List.mem_cons_self⟩,
        ih fun m hm => hlt m (List.mem_cons_of_mem n hm)]
      rfl

/-! ## Padding -/

/-- Padding behind a text that holds none is split off. -/
theorem splitPadding_append {text : List Char} (h : '=' ∉ text) (n : Nat) :
    splitPadding (text ++ List.replicate n '=') = (text, n) := by
  have hbody : ((text ++ List.replicate n '=').reverse.dropWhile (· == '=')).reverse = text := by
    rw [List.reverse_append, List.reverse_replicate, List.dropWhile_append_of_pos
      fun c hc => by rw [List.eq_of_mem_replicate hc]; rfl]
    cases hrev : text.reverse with
    | nil => rw [List.reverse_eq_nil_iff.mp hrev]; rfl
    | cons last front =>
        have hlast : last ≠ '=' := by
          rintro rfl
          exact h (List.mem_reverse.mp (hrev ▸ List.mem_cons_self))
        rw [List.dropWhile_cons_of_neg (by simpa using hlast), ← hrev, List.reverse_reverse]
  rw [splitPadding, hbody, List.length_append, List.length_replicate, Nat.add_sub_cancel_left]

/-- A text that is complete but for its padding has no single character behind its groups. -/
theorem isPadding_encode (octets : List UInt8) :
    isPadding (encodeUnpadded standard octets).length
      ((4 - (encodeUnpadded standard octets).length % 4) % 4) = true := by
  unfold isPadding
  split
  · rename_i h
    rw [h]
    rfl
  · rename_i h
    simp only [decide_eq_true_eq]
    omega

/-- What was encoded is read back. -/
theorem decode?_encode (octets : List UInt8) : decode? (encode octets) = some octets := by
  rw [decode?, encode,
    splitPadding_append fun h => (mem_encodeUnpadded standard_isReadable h).1 rfl]
  simp only [mapM_value?_encodeUnpadded standard_isReadable, octetsOf?_sextets, isPadding_encode,
    Option.bind_eq_bind, Option.bind_some, if_true]

/-- What was encoded without padding is read back. -/
theorem decodeUnpadded?_encodeUnpadded (octets : List UInt8) :
    decodeUnpadded? (encodeUnpadded addressSafe octets) = some octets := by
  have hsplit : splitPadding (encodeUnpadded addressSafe octets)
      = (encodeUnpadded addressSafe octets, 0) := by
    have hfree : '=' ∉ encodeUnpadded addressSafe octets := fun h =>
      (mem_encodeUnpadded addressSafe_isReadable h).1 rfl
    have hpadding := splitPadding_append hfree 0
    rwa [List.replicate_zero, List.append_nil] at hpadding
  rw [decodeUnpadded?, hsplit]
  simp only [mapM_value?_encodeUnpadded addressSafe_isReadable, octetsOf?_sextets,
    Option.bind_eq_bind, Option.bind_some]
  rfl

end Accounts.Base64
