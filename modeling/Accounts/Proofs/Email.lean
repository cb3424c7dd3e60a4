import Accounts.Email
import Accounts.Proofs.Checks
import Accounts.Proofs.Text.Normal
import Accounts.Proofs.Text.Split
import Accounts.Proofs.Text.Utf8

/-!
# Reading an address again

An address in canonical form is read as itself: `IsAddress.canonical`. Its local part is composed,
and in lower case if it is a common mailbox (`IsLocal`); both stay as they are when they are
composed and compared once more. Its domain is in lower case, and nothing in it or in the local
part is taken for a separator of the parts of an address.
-/

namespace Accounts.Email

open Text

/-- A text that some text is read as: an address in canonical form. -/
def IsAddress (email : String) : Prop := ∃ text, canonical text = .ok email

instance (text email : String) : Decidable (canonical text = .ok email) :=
  decidable_of_iff ((canonical text).toOption = some email) (by
    cases canonical text <;> simp [Except.toOption])

/-! ## Characters -/

/-- What holds of every ASCII character is found out by trying them. -/
theorem of_ascii {p : Char → Bool}
    (h : (List.range 128).all (fun code => p (Char.ofNat code)) = true) {c : Char}
    (hc : c.toNat < 128) : p c = true := by
  have := List.all_eq_true.mp h c.toNat (List.mem_range.mpr hc)
  rwa [Char.ofNat_toNat] at this

/-- The characters of a domain. -/
def isHost (c : Char) : Bool := c.isAlphanum || c == '.' || c == '-'

theorem ascii_of_isAlphanum {c : Char} (h : c.isAlphanum = true) : c.toNat < 128 := by
  change (decide (65 ≤ c.toNat ∧ c.toNat ≤ 90)
    || (decide (97 ≤ c.toNat) && decide (c.toNat ≤ 122))
    || (decide (48 ≤ c.toNat) && decide (c.toNat ≤ 57))) = true at h
  simp only [Bool.or_eq_true, Bool.and_eq_true, decide_eq_true_eq] at h
  omega

theorem ascii_of_isHost {c : Char} (h : isHost c = true) : c.toNat < 128 := by
  simp only [isHost, Bool.or_eq_true, beq_iff_eq] at h
  rcases h with (h | rfl) | rfl
  · exact ascii_of_isAlphanum h
  · decide
  · decide

theorem ascii_of_isAsciiAtom {c : Char} (h : isAsciiAtom c = true) : c.toNat < 128 := by
  simp only [isAsciiAtom, Bool.or_eq_true, List.contains_iff_mem] at h
  rcases h with h | h
  · exact ascii_of_isAlphanum h
  · have hall : (atomPunctuation.all fun d => d.toNat < 128) = true := by
      decide +kernel
    simpa using List.all_eq_true.mp hall c h

theorem isHost_toLower {c : Char} (h : isHost c = true) : isHost c.toLower = true := by
  have := of_ascii (p := fun c => !isHost c || isHost c.toLower) (by decide +kernel)
    (ascii_of_isHost h)
  simpa [h] using this

theorem toLower_toLower_of_isHost {c : Char} (h : isHost c = true) :
    c.toLower.toLower = c.toLower := by
  exact beq_iff_eq.mp (of_ascii (p := fun c => c.toLower.toLower == c.toLower) (by decide +kernel)
    (ascii_of_isHost h))

/-- A character that is neither a blank nor of use in finding the parts of an address. -/
def isInert (c : Char) : Bool := !(['"', '@', '<', '\n', '\r'].contains c)

theorem isInert_of_isHost {c : Char} (h : isHost c = true) :
    isInert c = true ∧ isBlank c = false := by
  have := of_ascii (p := fun c => !isHost c || isInert c && !isBlank c) (by decide +kernel)
    (ascii_of_isHost h)
  simpa [h] using this

theorem isInert_of_isAsciiAtom {c : Char} (h : isAsciiAtom c = true) :
    isInert c = true ∧ isBlank c = false := by
  have := of_ascii (p := fun c => !isAsciiAtom c || isInert c && !isBlank c) (by decide +kernel)
    (ascii_of_isAsciiAtom h)
  simpa [h] using this

theorem isInert_of_isAtom {c : Char} (h : isAtom c = true) : isInert c = true := by
  rw [isAtom, Bool.or_eq_true, decide_eq_true_eq] at h
  rcases h with h | h
  · exact (isInert_of_isAsciiAtom h).1
  · rw [isInert, Bool.not_eq_true', List.contains_eq_mem, decide_eq_false_iff_not]
    intro hspecial
    have hascii : (['"', '@', '<', '\n', '\r'].all fun d => d.toNat < 0x80) = true := rfl
    have hc := List.all_eq_true.mp hascii c hspecial
    rw [decide_eq_true_eq] at hc
    omega

/-- What is drawn is no blank. -/
theorem isBlank_of_isGraphic {c : Char} (h : isGraphic c = true) : isBlank c = false := by
  have hblanks : ∀ code ∈ [0x85, 0xA0, 0x1680, 0x2028, 0x2029, 0x202F, 0x205F, 0x3000]
      ++ List.range 0x21 ++ List.range' 0x2000 0xB, graphicRanges.contains code = false := by
    decide +kernel
  rw [Bool.eq_false_iff]
  intro hblank
  have hcode := hblanks c.toNat (by
    simp only [isBlank, isWhiteSpace, isAsciiBlank, Bool.or_eq_true, Bool.and_eq_true,
      decide_eq_true_eq, beq_iff_eq, List.contains_iff_mem] at hblank
    simp only [List.mem_append, List.mem_range, List.mem_range'_1]
    rcases hblank with ((((h | rfl) | h) | h) | h)
    · omega
    · decide
    · exact Or.inl (Or.inl h)
    · omega
    · omega)
  rw [isGraphic, hcode] at h
  cases h

/-! ## Local parts -/

theorem of_isDotAtom {p : Char → Bool} {text : List Char} (h : isDotAtom p text = true) :
    text ≠ [] ∧ ∀ c ∈ text, p c = true ∨ c = '.' := by
  have hall := List.all_eq_true.mp h
  refine ⟨?_, fun c hc => ?_⟩
  · rintro rfl
    cases h
  · rcases @mem_splitOn Char _ '.' c text hc with rfl | ⟨field, hfield, hmem⟩
    · exact Or.inr rfl
    · have hatom := hall field hfield
      rw [Bool.and_eq_true, List.all_eq_true] at hatom
      exact Or.inl (hatom.2 c hmem)

theorem ascii_of_isDotAtom {text : List Char} (h : isDotAtom isAsciiAtom text = true) :
    ∀ c ∈ text, c.toNat < 128 := by
  intro c hc
  rcases (of_isDotAtom h).2 c hc with hatom | rfl
  · exact ascii_of_isAsciiAtom hatom
  · decide

theorem composed_of_ascii {text : List Char} (h : ∀ c ∈ text, c.toNat < 128) :
    Normal.composed text = text := by
  rw [Normal.composed, if_pos]
  simpa using h

/-- A text that may be passed on does not begin with a blank. -/
theorem isBlank_of_checkSafe {first : Char} {rest : List Char}
    (h : checkSafe false (first :: rest) = .ok ()) : isBlank first = false := by
  unfold checkSafe at h
  split at h
  · rename_i hsafe
    simp only [findUnsafe, List.append_eq_nil_iff] at hsafe
    have hfirst := hsafe.1
    simp only [ite_eq_right_iff, List.cons_ne_nil, imp_false, Bool.or_eq_true, not_or,
      Bool.not_eq_true] at hfirst
    refine isBlank_of_isGraphic ?_
    simpa [hfirst.1] using hfirst.2
  · cases h

/-- A local part that may stand without quotes: nothing in it, and no blank in front, has to do with
the parts around it. -/
theorem of_checkLocal {text : List Char} (h : checkLocal false text = .ok ()) :
    (∀ c ∈ text, isInert c = true)
      ∧ ∃ first rest, text = first :: rest ∧ isBlank first = false := by
  have hinert : ∀ {p : Char → Bool}, (∀ c, p c = true → isInert c = true) →
      isDotAtom p text = true → ∀ c ∈ text, isInert c = true := by
    intro p hp hatom c hc
    rcases (of_isDotAtom hatom).2 c hc with hc | rfl
    · exact hp c hc
    · decide
  unfold checkLocal at h
  split at h
  · cases h
  split at h
  · rename_i hatom
    obtain ⟨hne, hall⟩ := of_isDotAtom hatom
    obtain ⟨first, rest, rfl⟩ := List.exists_cons_of_ne_nil hne
    refine ⟨hinert (fun c hc => (isInert_of_isAsciiAtom hc).1) hatom, first, rest, rfl, ?_⟩
    rcases hall first List.mem_cons_self with hfirst | rfl
    · exact (isInert_of_isAsciiAtom hfirst).2
    · decide
  split at h
  · rename_i hatom
    obtain ⟨hne, -⟩ := of_isDotAtom hatom
    obtain ⟨first, rest, rfl⟩ := List.exists_cons_of_ne_nil hne
    refine ⟨hinert (fun c hc => isInert_of_isAtom hc) hatom, first, rest, rfl, ?_⟩
    exact isBlank_of_checkSafe h
  · simp only [Bool.false_eq_true, if_false] at h
    split at h <;> cases h

theorem isAsciiDotAtom_of_mem {mailbox : String} (h : mailbox ∈ commonMailboxes) :
    isDotAtom isAsciiAtom mailbox.toList = true
      ∧ mailbox.toList.map Char.toLower = mailbox.toList := by
  have hall : ∀ mailbox ∈ commonMailboxes, isDotAtom isAsciiAtom mailbox.toList = true
      ∧ mailbox.toList.map Char.toLower = mailbox.toList := by
    decide +kernel
  exact hall mailbox h

theorem checkLocal_of_isDotAtom {text : List Char} (h : isDotAtom isAsciiAtom text = true) :
    checkLocal false text = .ok () := by
  have hempty : text.isEmpty = false := by
    simpa using (of_isDotAtom h).1
  rw [checkLocal, hempty, if_neg (by decide), if_pos h]

/-- A local part in canonical form: composed, and in lower case if it is a common mailbox. -/
structure IsLocal (text : List Char) : Prop where
  checked : checkLocal false text = .ok ()
  composed : Normal.composed text = text
  lower : isCommonMailbox text = true → text.map Char.toLower = text

theorem IsLocal.of_isCommonMailbox {text : List Char} (h : isCommonMailbox text = true) :
    IsLocal (text.map Char.toLower) := by
  rw [isCommonMailbox, Bool.and_eq_true, List.contains_iff_mem] at h
  obtain ⟨hatom, hlower⟩ := isAsciiDotAtom_of_mem h.2
  rw [String.toList_ofList] at hatom hlower
  exact ⟨checkLocal_of_isDotAtom hatom, composed_of_ascii (ascii_of_isDotAtom hatom),
    fun _ => hlower⟩

theorem canonicalLocal_of_isLocal {text : List Char} (h : IsLocal text) :
    canonicalLocal false text = .ok text := by
  rw [canonicalLocal, h.checked, h.composed]
  simp only [bne_self_eq_false, Bool.false_eq_true, if_false]
  split
  · rename_i hcommon
    rw [h.lower hcommon]
    rfl
  · rfl

theorem canonicalLocal_eq_ok {quoted : Bool} {text out : List Char}
    (h : canonicalLocal quoted text = .ok out) : checkLocal false (Normal.composed text) = .ok ()
      ∧ out = if isCommonMailbox (Normal.composed text) then (Normal.composed text).map Char.toLower
        else Normal.composed text := by
  obtain ⟨_, hchecked, h⟩ := bind_eq_ok.mp h
  have hquoted : quoted = false := by
    cases quoted
    · rfl
    · dsimp only at h
      split at h
      · obtain ⟨_, -, h⟩ := bind_eq_ok.mp h
        cases h
      · cases h
  subst hquoted
  have hcomposed : checkLocal false (Normal.composed text) = .ok ()
      ∧ (if isCommonMailbox (Normal.composed text)
          then Except.ok ((Normal.composed text).map Char.toLower)
          else .ok (Normal.composed text)) = (Except.ok out : Except Problem (List Char)) := by
    dsimp only at h
    split at h
    · obtain ⟨_, hagain, h⟩ := bind_eq_ok.mp h
      exact ⟨mapError_eq_ok.mp hagain, h⟩
    · rename_i hsame
      rw [show Normal.composed text = text by simpa using hsame] at h ⊢
      exact ⟨hchecked, h⟩
  rw [← apply_ite Except.ok] at hcomposed
  exact ⟨hcomposed.1, (Except.ok.inj hcomposed.2).symm⟩

theorem isLocal_of_canonicalLocal {quoted : Bool} {text out : List Char}
    (h : canonicalLocal quoted text = .ok out) : IsLocal out := by
  obtain ⟨hchecked, rfl⟩ := canonicalLocal_eq_ok h
  split
  · rename_i hcommon
    exact IsLocal.of_isCommonMailbox hcommon
  · rename_i hcommon
    exact ⟨hchecked, Normal.composed_composed text, fun h => absurd h hcommon⟩

/-! ## Domains -/

theorem checkDomain_eq_ok {text : List Char} :
    checkDomain text = .ok () ↔ text ≠ [] ∧ text.length ≤ 253 ∧ ∀ c ∈ text, isHost c = true := by
  have hother : (text.filter fun c => !(c.isAlphanum || c == '.' || c == '-')) = [] ↔
      ∀ c ∈ text, isHost c = true := by
    rw [List.filter_eq_nil_iff]
    simp only [isHost, Bool.not_eq_true', Bool.not_eq_false]
  unfold checkDomain
  constructor
  · intro h
    dsimp only at h
    split at h
    · cases h
    split at h
    · cases h
    split at h
    · cases h
    split at h
    · cases h
    split at h
    · cases h
    rename_i hempty _ hlength _ hchars
    exact ⟨by simpa using hempty, by omega, hother.mp (by simpa using hchars)⟩
  · rintro ⟨hempty, hlength, hchars⟩
    have hbracket : (text.head? == some '[' && text.getLast? == some ']') = false := by
      obtain ⟨first, rest, rfl⟩ := List.exists_cons_of_ne_nil hempty
      have hfirst : first ≠ '[' := by
        rintro rfl
        exact absurd (hchars '[' List.mem_cons_self) (by decide)
      simp [hfirst]
    rw [if_neg (by simpa using hempty), if_neg (by simp [hbracket]), if_neg (by omega),
      hother.mpr hchars]
    rfl

theorem canonicalDomain_eq_ok {text domain : List Char} :
    canonicalDomain text = .ok domain ↔
      checkDomain text = .ok () ∧ checkLabels (text.map Char.toLower) = .ok ()
        ∧ domain = text.map Char.toLower := by
  rw [canonicalDomain, bind_eq_ok]
  constructor
  · rintro ⟨_, hchars, h⟩
    obtain ⟨_, hlabels, h⟩ := bind_eq_ok.mp h
    exact ⟨hchars, hlabels, (Except.ok.inj h).symm⟩
  · rintro ⟨hchars, hlabels, rfl⟩
    exact ⟨(), hchars, bind_eq_ok.mpr ⟨(), hlabels, rfl⟩⟩

/-- A domain in canonical form is read as itself. -/
theorem canonicalDomain_again {text domain : List Char} (h : canonicalDomain text = .ok domain) :
    canonicalDomain domain = .ok domain ∧ domain ≠ [] ∧ ∀ c ∈ domain, isHost c = true := by
  obtain ⟨hchecked, hlabels, rfl⟩ := canonicalDomain_eq_ok.mp h
  obtain ⟨hempty, hlength, hchars⟩ := checkDomain_eq_ok.mp hchecked
  have hlower : (text.map Char.toLower).map Char.toLower = text.map Char.toLower := by
    rw [List.map_map]
    exact List.map_congr_left fun c hc => toLower_toLower_of_isHost (hchars c hc)
  have hagain : ∀ c ∈ text.map Char.toLower, isHost c = true := by
    intro c hc
    obtain ⟨d, hd, rfl⟩ := List.mem_map.mp hc
    exact isHost_toLower (hchars d hd)
  have hne : text.map Char.toLower ≠ [] := by
    simpa using hempty
  refine ⟨canonicalDomain_eq_ok.mpr ⟨checkDomain_eq_ok.mpr ⟨hne, ?_, hagain⟩, ?_, hlower.symm⟩,
    hne, hagain⟩
  · simpa using hlength
  · rwa [hlower]

/-! ## Splitting -/

theorem isInert_ne {c : Char} (h : isInert c = true) :
    c ≠ '"' ∧ c ≠ '@' ∧ c ≠ '<' ∧ c ≠ '\n' ∧ c ≠ '\r' := by
  simpa [isInert] using h

theorem standsAlone_of_ascii {c : Char} {rest : List Char} (hc : c.toNat < 128)
    (hrest : ∀ d ∈ rest, d.toNat < 128) : standsAlone c rest = true := by
  unfold standsAlone
  dsimp only
  rw [composed_of_ascii]
  · simp
  · rw [List.cons_append]
    refine List.forall_mem_cons.mpr ⟨hc, fun d hd => ?_⟩
    rcases List.mem_append.mp hd with hd | hd
    · exact hrest d (List.takeWhile_subset _ hd)
    · exact hrest d (List.mem_of_mem_drop (List.mem_of_mem_take hd))

/-- Nothing special stands in an inert text. -/
theorem splitSpecial_append {special : Char → Bool} {text rest : List Char}
    (h : ∀ c ∈ text, c ≠ '"' ∧ special c = false) :
    splitSpecial special ⟨false, false⟩ (text ++ rest)
      = (text ++ (splitSpecial special ⟨false, false⟩ rest).1,
        (splitSpecial special ⟨false, false⟩ rest).2) := by
  induction text with
  | nil => rfl
  | cons c text ih =>
      obtain ⟨⟨hquote, hspecial⟩, htext⟩ := List.forall_mem_cons.mp h
      rw [List.cons_append, splitSpecial]
      simp [hquote, hspecial, ih htext]

theorem splitSpecial_at {special : Char → Bool} {c : Char} {rest : List Char}
    (hspecial : special c = true) (hquote : c ≠ '"') (halone : standsAlone c rest = true) :
    splitSpecial special ⟨false, false⟩ (c :: rest) = ([], c :: rest) := by
  rw [splitSpecial]
  simp [halone, hquote, hspecial]

theorem split_address {localPart domain : List Char}
    (hlocal : ∀ c ∈ localPart, isInert c = true) (hdomain : ∀ c ∈ domain, isHost c = true) :
    split (localPart ++ '@' :: domain) = .ok ⟨false, localPart, domain, false⟩ := by
  have halone : standsAlone '@' domain = true :=
    standsAlone_of_ascii (by decide) fun c hc => ascii_of_isHost (hdomain c hc)
  have hinert : ∀ c ∈ localPart, c ≠ '"' ∧ (c == '@' || c == '<') = false := by
    intro c hc
    obtain ⟨hquote, hat, hangle, -⟩ := isInert_ne (hlocal c hc)
    simp [hquote, hat, hangle]
  have hunquote : unquote localPart = .ok (localPart, false) := by
    cases localPart with
    | nil => rfl
    | cons first rest =>
        have hfirst := (isInert_ne (hlocal first List.mem_cons_self)).1
        rw [unquote]
        rintro other ⟨⟩
        exact hfirst rfl
  rw [split, splitAtSpecial, splitSpecial_append hinert,
    splitSpecial_at (by decide) (by decide) halone, List.append_nil]
  have hangle : (('@' :: domain).head? == some '<') = false := by
    simp
  simp only [hangle, bind, Except.bind, Bool.false_eq_true, if_false, hunquote]
  rfl

/-! ## Lengths -/

theorem checkLength_eq_ok {written canonical : List Char} :
    checkLength written canonical = .ok () ↔ excess written = 0 ∧ excess canonical = 0 := by
  rw [checkLength]
  constructor
  · intro h
    dsimp only at h
    split at h
    · cases h
    · split at h
      · cases h
      · omega
  · rintro ⟨hwritten, hcanonical⟩
    rw [hwritten, hcanonical]
    rfl

/-! ## Whole addresses -/

/-- The parts of an address in canonical form. -/
structure IsCanonical (localPart domain : List Char) : Prop where
  isLocal : IsLocal localPart
  isDomain : canonicalDomain domain = .ok domain
  short : excess (localPart ++ '@' :: domain) = 0

theorem isCanonical_of_canonicalAddress {text out : List Char}
    (h : canonicalAddress text = .ok out) :
    ∃ localPart domain, out = localPart ++ '@' :: domain ∧ IsCanonical localPart domain := by
  obtain ⟨parts, -, h⟩ := bind_eq_ok.mp h
  obtain ⟨localPart, hlocal, h⟩ := bind_eq_ok.mp h
  obtain ⟨domain, hdomain, h⟩ := bind_eq_ok.mp h
  obtain ⟨_, hlength, h⟩ := bind_eq_ok.mp h
  refine ⟨localPart, domain, ?_, isLocal_of_canonicalLocal hlocal,
    (canonicalDomain_again hdomain).1, (checkLength_eq_ok.mp hlength).2⟩
  dsimp only at h
  split at h
  · cases h
  · exact (Except.ok.inj h).symm

theorem IsCanonical.canonicalAddress {localPart domain : List Char}
    (h : IsCanonical localPart domain) :
    canonicalAddress (localPart ++ '@' :: domain) = .ok (localPart ++ '@' :: domain) := by
  obtain ⟨-, -, hhost⟩ := canonicalDomain_again h.isDomain
  have hlength : checkLength (localPart ++ '@' :: domain) (localPart ++ '@' :: domain) = .ok () :=
    checkLength_eq_ok.mpr ⟨h.short, h.short⟩
  rw [Email.canonicalAddress, split_address (of_checkLocal h.isLocal.checked).1 hhost]
  simp only [bind, Except.bind, canonicalLocal_of_isLocal h.isLocal, h.isDomain, hlength,
    Bool.false_eq_true, if_false]

theorem IsCanonical.isInert {localPart domain : List Char} (h : IsCanonical localPart domain) :
    ∀ c ∈ localPart ++ '@' :: domain, c = '@' ∨ isInert c = true := by
  intro c hc
  rcases List.mem_append.mp hc with hc | hc
  · exact Or.inr ((of_checkLocal h.isLocal.checked).1 c hc)
  · rcases List.mem_cons.mp hc with rfl | hc
    · exact Or.inl rfl
    · exact Or.inr (isInert_of_isHost ((canonicalDomain_again h.isDomain).2.2 c hc)).1

theorem behindName?_eq_none {first : Char} {rest : List Char} (hblank : isBlank first = false)
    (hquote : first ≠ '"') (hangle : ∀ c ∈ first :: rest, c ≠ '<') :
    behindName? (first :: rest) = none := by
  have hname : (first :: rest).takeWhile (· != '<') = first :: rest := by
    rw [← List.append_nil (first :: rest),
      List.takeWhile_append_of_pos fun c hc => by simpa using hangle c hc, List.takeWhile_nil]
  unfold behindName?
  rw [List.dropWhile_cons_of_neg (by simp [hblank])]
  split
  · rename_i heq
    exact absurd (List.cons.inj heq).1 (hangle first List.mem_cons_self)
  · rename_i heq
    exact absurd (List.cons.inj heq).1 hquote
  · rename_i heq
    obtain ⟨rfl, rfl⟩ := List.cons.inj heq
    dsimp only
    rw [hname, List.length_cons, Nat.add_sub_cancel, List.drop_length]
    split <;> rfl
  · rfl

theorem trim_eq_self {first last : Char} {rest init : List Char}
    (h : first :: rest = init ++ [last]) (hfirst : isBlank first = false)
    (hlast : isBlank last = false) : trim (first :: rest) = first :: rest := by
  rw [trim, trimBy, List.dropWhile_cons_of_neg (by simp [hfirst]), trimRightBy, h,
    List.reverse_append, List.reverse_singleton, List.singleton_append,
    List.dropWhile_cons_of_neg (by simp [hlast]), List.reverse_cons, List.reverse_reverse]

/-- There is no name in front of an address, and there are no blanks around it. -/
theorem IsCanonical.bare {localPart domain : List Char} (h : IsCanonical localPart domain) :
    behindName? (localPart ++ '@' :: domain) = none
      ∧ trim (localPart ++ '@' :: domain) = localPart ++ '@' :: domain := by
  obtain ⟨hlocal, first, rest, rfl, hblank⟩ := of_checkLocal h.isLocal.checked
  obtain ⟨-, hne, hhost⟩ := canonicalDomain_again h.isDomain
  have hfirst := isInert_ne (hlocal first List.mem_cons_self)
  constructor
  · refine behindName?_eq_none hblank hfirst.1 fun c hc => ?_
    rcases h.isInert c hc with rfl | hinert
    · decide
    · exact (isInert_ne hinert).2.2.1
  · have hlast := isInert_of_isHost (hhost _ (List.getLast_mem hne))
    have hends : first :: (rest ++ '@' :: domain)
        = (first :: rest ++ '@' :: domain.dropLast) ++ [domain.getLast hne] := by
      rw [List.append_assoc, List.cons_append, List.cons_append, List.dropLast_append_getLast]
    exact trim_eq_self hends hblank hlast.2

theorem IsCanonical.canonical {localPart domain : List Char} (h : IsCanonical localPart domain) :
    canonical (String.ofList (localPart ++ '@' :: domain))
      = .ok (String.ofList (localPart ++ '@' :: domain)) := by
  have hlong : ¬(localPart ++ '@' :: domain).length > maxText := by
    have hencode := Utf8.length_le_encode (localPart ++ '@' :: domain)
    have hshort := h.short
    rw [excess, maxLength] at hshort
    rw [maxText]
    omega
  have hline : ((localPart ++ '@' :: domain).any fun c => c == '\n' || c == '\r') = false := by
    rw [List.any_eq_false]
    intro c hc
    rcases h.isInert c hc with rfl | hinert
    · decide
    · obtain ⟨-, -, -, hfeed, hreturn⟩ := isInert_ne hinert
      simp [hfeed, hreturn]
  rw [Email.canonical, String.toList_ofList]
  simp only [hlong, hline, h.bare.1, h.bare.2, Option.getD_none, h.canonicalAddress, if_false,
    Bool.false_eq_true, Except.map]

/-! ## Addresses -/

theorem isCanonical_of_isAddress {email : String} (h : IsAddress email) :
    ∃ localPart domain, email = String.ofList (localPart ++ '@' :: domain)
      ∧ IsCanonical localPart domain := by
  obtain ⟨text, h⟩ := h
  rw [Email.canonical] at h
  dsimp only at h
  split at h
  · cases h
  split at h
  · cases h
  cases haddress : canonicalAddress (trim ((behindName? text.toList).getD text.toList)) with
  | error e =>
      rw [haddress] at h
      cases h
  | ok out =>
      rw [haddress] at h
      obtain ⟨localPart, domain, rfl, hcanonical⟩ := isCanonical_of_canonicalAddress haddress
      exact ⟨localPart, domain, (Except.ok.inj h).symm, hcanonical⟩

/-- An address in canonical form is read as itself. -/
theorem IsAddress.canonical {email : String} (h : IsAddress email) :
    canonical email = .ok email := by
  obtain ⟨localPart, domain, rfl, hcanonical⟩ := isCanonical_of_isAddress h
  exact hcanonical.canonical

/-- The sign of the kelvin is composed to a letter, and what comes of it is a common mailbox. -/
example : canonical "mar\u212aeting@example.com" = .ok "marketing@example.com" := by decide +kernel

/-- A plain address is read as itself. -/
theorem isAddress_plain : IsAddress "ann@example.com" := ⟨"ann@example.com", by decide +kernel⟩

end Accounts.Email
