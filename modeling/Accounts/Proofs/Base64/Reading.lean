import Accounts.Proofs.Base64
import Accounts.Proofs.Text.Numeral

/-!
# What is read as base64

A text is taken apart into its body and the padding behind it, in one way only. The body is read
where it is made of characters of the alphabet and leaves no single one behind its groups of four;
what the padding has to be is the difference between the two readings. The padded one takes strict
base64 (`IsStrict`) and lets padding pass that fills nothing up (`IsOverpadded`). The unpadded one
takes a text for octets if it is the one unpadded text of the octets, as it is or filled up with
padding (`Spells`).
-/

namespace Accounts.Base64

variable {alphabet : Alphabet}

/-! ## Characters -/

/-- The characters that have a value. -/
def Alphabet.Has (alphabet : Alphabet) (c : Char) : Prop :=
  c.isAlphanum = true ∨ c = alphabet.value62 ∨ c = alphabet.value63

theorem value?_isSome_iff {c : Char} : (alphabet.value? c).isSome = true ↔ alphabet.Has c := by
  unfold Alphabet.value? Alphabet.Has Char.isAlphanum Char.isAlpha
  split
  case isTrue h => simp [h]
  case isFalse hupper =>
    split
    case isTrue h => simp [h]
    case isFalse hlower =>
      split
      case isTrue h => simp [h]
      case isFalse hdigit =>
        split
        case isTrue h => simp [h]
        case isFalse h62 => split <;> simp_all

theorem toNat_of_isUpper {c : Char} (h : c.isUpper = true) : 65 ≤ c.toNat ∧ c.toNat ≤ 90 := by
  have hbounds : 'A'.val ≤ c.val ∧ c.val ≤ 'Z'.val := of_decide_eq_true h
  exact hbounds

theorem toNat_of_isLower {c : Char} (h : c.isLower = true) : 97 ≤ c.toNat ∧ c.toNat ≤ 122 := by
  have hbounds : (decide ('a'.val ≤ c.val) && decide (c.val ≤ 'z'.val)) = true := h
  simp only [Bool.and_eq_true, decide_eq_true_eq] at hbounds
  exact hbounds

/-- A character is the one of its value. -/
theorem char_of_value? {c : Char} {n : Nat} (h : alphabet.value? c = some n) :
    n < 64 ∧ alphabet.char n = c := by
  have hback : ∀ k, k = c.toNat → Char.ofNat k = c := by
    rintro k rfl
    exact Char.ofNat_toNat c
  have hletters : 'A'.toNat = 65 ∧ 'a'.toNat = 97 ∧ '0'.toNat = 48 := ⟨rfl, rfl, rfl⟩
  unfold Alphabet.value? at h
  unfold Alphabet.char
  simp only [hletters] at h ⊢
  split at h
  · rename_i hupper
    have := toNat_of_isUpper hupper
    obtain rfl := Option.some.inj h
    refine ⟨by omega, ?_⟩
    rw [if_pos (by omega)]
    exact hback _ (by omega)
  split at h
  · rename_i hlower
    have := toNat_of_isLower hlower
    obtain rfl := Option.some.inj h
    refine ⟨by omega, ?_⟩
    rw [if_neg (by omega), if_pos (by omega)]
    exact hback _ (by omega)
  split at h
  · rename_i hdigit
    have := Text.IntegerText.toNat_of_isDigit hdigit
    obtain rfl := Option.some.inj h
    refine ⟨by omega, ?_⟩
    rw [if_neg (by omega), if_neg (by omega), if_pos (by omega)]
    exact hback _ (by omega)
  split at h
  · obtain rfl := Option.some.inj h
    exact ⟨by decide, by simp_all⟩
  split at h
  · obtain rfl := Option.some.inj h
    exact ⟨by decide, by simp_all⟩
  · cases h

/-- Padding has no value. -/
theorem standard_not_has_padding : ¬standard.Has '=' := by
  unfold Alphabet.Has
  decide

/-- A body is read where each of its characters is. -/
theorem mapM_value?_isSome_iff {body : List Char} :
    (body.mapM alphabet.value?).isSome = true ↔ ∀ c ∈ body, alphabet.Has c := by
  induction body with
  | nil => simp
  | cons c rest ih =>
      rw [List.mapM_cons, List.forall_mem_cons, ← ih, ← value?_isSome_iff]
      cases alphabet.value? c <;> cases rest.mapM alphabet.value? <;> simp

/-- A body that is read is made of the characters of its values. -/
theorem map_char_of_mapM {body : List Char} {values : List Nat}
    (h : body.mapM alphabet.value? = some values) :
    (∀ n ∈ values, n < 64) ∧ values.map alphabet.char = body := by
  induction body generalizing values with
  | nil =>
      obtain rfl := Option.some.inj h
      exact ⟨fun _ hn => absurd hn (List.not_mem_nil), rfl⟩
  | cons c rest ih =>
      rw [List.mapM_cons] at h
      obtain ⟨n, hn, h⟩ := Option.bind_eq_some_iff.mp h
      obtain ⟨more, hmore, h⟩ := Option.bind_eq_some_iff.mp h
      obtain rfl := Option.some.inj h
      obtain ⟨hlt, hchar⟩ := char_of_value? hn
      obtain ⟨hall, hmap⟩ := ih hmore
      exact ⟨List.forall_mem_cons.mpr ⟨hlt, hall⟩, by rw [List.map_cons, hchar, hmap]⟩

/-! ## Octets -/

/-- Values are octets unless a single one is left behind the groups of four. -/
theorem octetsOf?_isSome_iff (values : List Nat) :
    (octetsOf? values).isSome = true ↔ values.length % 4 ≠ 1 := by
  induction values using octetsOf?.induct with
  | case5 a b c d rest ih =>
      rw [octetsOf?, Option.isSome_map, ih]
      simp only [List.length_cons]
      omega
  | _ => simp [octetsOf?]

/-- Values without spare bits are the ones of their octets. -/
theorem sextets_of_octetsOf? {values : List Nat} {octets : List UInt8}
    (hlt : ∀ n ∈ values, n < 64) (h : octetsOf? values = some (octets, 0)) :
    sextets octets = values := by
  induction values using octetsOf?.induct generalizing octets with
  | case1 =>
      obtain ⟨rfl, -⟩ := Prod.mk.inj (Option.some.inj h)
      rfl
  | case2 => cases h
  | case3 a b =>
      simp only [List.forall_mem_cons] at hlt
      obtain ⟨rfl, hspare⟩ := Prod.mk.inj (Option.some.inj h)
      simp only [sextets, Nat.toUInt8, UInt8.toNat_ofNat', List.cons.injEq, and_true]
      omega
  | case4 a b c =>
      simp only [List.forall_mem_cons] at hlt
      obtain ⟨rfl, hspare⟩ := Prod.mk.inj (Option.some.inj h)
      simp only [sextets, Nat.toUInt8, UInt8.toNat_ofNat', List.cons.injEq, and_true]
      omega
  | case5 a b c d rest ih =>
      simp only [List.forall_mem_cons] at hlt
      rw [octetsOf?] at h
      obtain ⟨⟨more, spare⟩, hmore, h⟩ := Option.map_eq_some_iff.mp h
      obtain ⟨rfl, rfl⟩ := Prod.mk.inj h
      have hrest := ih hlt.2.2.2.2 hmore
      simp only [sextets, hrest, Nat.toUInt8, UInt8.toNat_ofNat', List.cons_append,
        List.nil_append, List.cons.injEq, and_true]
      omega

/-! ## Padding -/

/-- A text is its body with the padding behind it. -/
theorem exists_splitPadding (text : List Char) : ∃ body padding,
    splitPadding text = (body, padding) ∧ text = body ++ List.replicate padding '=' := by
  let padding := text.reverse.takeWhile (· == '=')
  let body := (text.reverse.dropWhile (· == '=')).reverse
  have htext : text = body ++ padding.reverse := by
    rw [← List.reverse_append, List.takeWhile_append_dropWhile, List.reverse_reverse]
  have hpadding : padding.reverse = List.replicate padding.length '=' := by
    rw [List.eq_replicate_iff]
    refine ⟨List.length_reverse, fun c hc => ?_⟩
    have hall : padding.all (· == '=') = true := List.all_takeWhile
    exact eq_of_beq (List.all_eq_true.mp hall c (List.mem_reverse.mp hc))
  have hlength : text.length - body.length = padding.length := by
    rw [htext, List.length_append, Nat.add_sub_cancel_left, List.length_reverse]
  refine ⟨body, padding.length, ?_, hpadding ▸ htext⟩
  rw [← hlength]
  rfl

/-! ## The two readings -/

/-- Strict base64 (RFC 4648, section 4): groups of four characters, all of the alphabet but for the
padding at the end of the last group, which has at most two. -/
def IsStrict (text : List Char) : Prop :=
  text.length % 4 = 0 ∧ ∃ body padding, text = body ++ List.replicate padding '=' ∧ padding ≤ 2
    ∧ ∀ c ∈ body, standard.Has c

/-- Complete groups with padding behind them, for which there is no place. -/
def IsOverpadded (text : List Char) : Prop :=
  ∃ body padding, text = body ++ List.replicate padding '=' ∧ body ≠ [] ∧ body.length % 4 = 0
    ∧ 0 < padding ∧ ∀ c ∈ body, standard.Has c

/-- The padding that is let pass. -/
theorem isPadding_iff {body : List Char} (h : body.length % 4 ≠ 1) (padding : Nat) :
    isPadding body.length padding = true ↔
      (body.length + padding) % 4 = 0 ∧ padding ≤ 2
        ∨ body ≠ [] ∧ body.length % 4 = 0 ∧ 0 < padding := by
  have hne : body ≠ [] ↔ 0 < body.length := List.length_pos_iff.symm
  rw [hne]
  unfold isPadding
  split
  · simp only [Bool.or_eq_true, decide_eq_true_eq]
    omega
  · simp only [decide_eq_true_eq]
    omega

/-- The padded reading takes these texts and no others. -/
theorem decode?_isSome_iff (text : List Char) :
    (decode? text).isSome = true ↔ IsStrict text ∨ IsOverpadded text := by
  have hread : ∀ body padding, splitPadding text = (body, padding) →
      ((decode? text).isSome = true ↔ (∀ c ∈ body, standard.Has c) ∧ body.length % 4 ≠ 1
        ∧ isPadding body.length padding = true) := by
    intro body padding hsplit
    unfold decode?
    rw [← mapM_value?_isSome_iff]
    simp only [hsplit, Option.bind_eq_bind]
    cases hvalues : body.mapM standard.value? with
    | none => simp
    | some values =>
        have hlength : values.length = body.length := by
          rw [← (map_char_of_mapM hvalues).2, List.length_map]
        rw [← hlength, ← octetsOf?_isSome_iff values, Option.bind_some]
        rcases octetsOf? values with _ | ⟨octets, spare⟩ <;> simp
  have hlength : ∀ (body : List Char) padding,
      (body ++ List.replicate padding '=').length = body.length + padding := by
    intro body padding
    rw [List.length_append, List.length_replicate]
  have hback : ∀ {body padding}, text = body ++ List.replicate padding '=' →
      (∀ c ∈ body, standard.Has c) → body.length % 4 ≠ 1 →
      isPadding body.length padding = true → (decode? text).isSome = true := by
    rintro body padding rfl hhas hsingle hpadding
    have hfree : '=' ∉ body := fun hmem => standard_not_has_padding (hhas _ hmem)
    exact (hread body padding (splitPadding_append hfree padding)).mpr ⟨hhas, hsingle, hpadding⟩
  constructor
  · intro h
    obtain ⟨body, padding, hsplit, htext⟩ := exists_splitPadding text
    obtain ⟨hhas, hsingle, hpadding⟩ := (hread body padding hsplit).mp h
    rcases (isPadding_iff hsingle padding).mp hpadding with ⟨hgroups, hfew⟩ | ⟨hne, hgroups, hsome⟩
    · exact Or.inl ⟨by rw [htext, hlength]; exact hgroups, body, padding, htext, hfew, hhas⟩
    · exact Or.inr ⟨body, padding, htext, hne, hgroups, hsome, hhas⟩
  · rintro (⟨hgroups, body, padding, htext, hfew, hhas⟩ |
      ⟨body, padding, htext, hne, hgroups, hsome, hhas⟩)
    · rw [htext, hlength] at hgroups
      have hsingle : body.length % 4 ≠ 1 := by omega
      exact hback htext hhas hsingle ((isPadding_iff hsingle padding).mpr (Or.inl ⟨hgroups, hfew⟩))
    · have hsingle : body.length % 4 ≠ 1 := by omega
      exact hback htext hhas hsingle
        ((isPadding_iff hsingle padding).mpr (Or.inr ⟨hne, hgroups, hsome⟩))

/-- The texts of octets in the unpadded reading: their unpadded text, as it is or with the padding
that fills it up. -/
def Spells (text : List Char) (octets : List UInt8) : Prop :=
  ∃ padding, text = encodeUnpadded addressSafe octets ++ List.replicate padding '='
    ∧ (padding = 0 ∨ padding ≤ 2 ∧ text.length % 4 = 0)

/-- The unpadded reading takes the texts of octets and no others. -/
theorem decodeUnpadded?_eq_some_iff {text : List Char} {octets : List UInt8} :
    decodeUnpadded? text = some octets ↔ Spells text octets := by
  constructor
  · intro h
    obtain ⟨body, padding, hsplit, htext⟩ := exists_splitPadding text
    unfold decodeUnpadded? at h
    rw [hsplit] at h
    obtain ⟨values, hvalues, h⟩ := Option.bind_eq_some_iff.mp h
    obtain ⟨⟨found, spare⟩, hfound, h⟩ := Option.bind_eq_some_iff.mp h
    obtain ⟨⟨rfl, hpadding⟩, hoctets⟩ := Option.ite_none_right_eq_some.mp h
    obtain rfl := Option.some.inj hoctets
    obtain ⟨hlt, hbody⟩ := map_char_of_mapM hvalues
    refine ⟨padding, ?_, hpadding⟩
    rw [encodeUnpadded_eq, sextets_of_octetsOf? hlt hfound, hbody, htext]
  · rintro ⟨padding, htext, hpadding⟩
    have hfree : '=' ∉ encodeUnpadded addressSafe octets := fun hmem =>
      (mem_encodeUnpadded addressSafe_isReadable hmem).1 rfl
    have hsplit : splitPadding text = (encodeUnpadded addressSafe octets, padding) :=
      htext ▸ splitPadding_append hfree padding
    unfold decodeUnpadded?
    rw [hsplit]
    simp only [mapM_value?_encodeUnpadded addressSafe_isReadable, octetsOf?_sextets,
      Option.bind_eq_bind, Option.bind_some, true_and, if_pos hpadding]

/-- A text stands for one octet sequence at most. -/
theorem Spells.unique {text : List Char} {octets others : List UInt8} (h : Spells text octets)
    (h' : Spells text others) : octets = others :=
  Option.some.inj ((decodeUnpadded?_eq_some_iff.mpr h).symm.trans
    (decodeUnpadded?_eq_some_iff.mpr h'))

end Accounts.Base64
