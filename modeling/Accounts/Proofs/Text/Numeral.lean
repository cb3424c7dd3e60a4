import Accounts.Text.IntegerText

/-!
# Numerals of decimal digits

The reader of integers takes a row of digits, of whatever scripts, for the number that they stand
for in the decimal system (`parse?_digits`), unless there are too many of them. No digit is a blank,
an underscore or a sign, so that nothing of the reader's grammar gets in the way.
-/

namespace Accounts.Text

/-- The number that decimal digits stand for. -/
def numeralValue (digits : List Char) : Nat :=
  digits.foldl (fun n c => 10 * n + (digit? c).getD 0) 0

namespace IntegerText

/-- The ASCII form of a digit. -/
def asciiDigit (c : Char) : Char := Char.ofNat ('0'.toNat + (digit? c).getD 0)

theorem isBlank_digits : ∀ first ∈ digitZeros, ∀ d < 10,
    isBlank (Char.ofNat (first + d)) = false := by
  decide +kernel

/-- One script of digits is ASCII. -/
theorem digitZeros_cases : ∀ first ∈ digitZeros, first = '0'.toNat ∨ 127 ≤ first := by decide

theorem asciiForm?_of_isDigit {c : Char} (h : isDigit c = true) :
    asciiForm? c = some (asciiDigit c) := by
  obtain ⟨d, hd⟩ := Option.isSome_iff_exists.mp h
  obtain ⟨first, hfind, hvalue⟩ := Option.map_eq_some_iff.mp hd
  have hmem : first ∈ digitZeros := List.mem_of_find?_eq_some hfind
  have hbounds := List.find?_some hfind
  simp only [Bool.and_eq_true, decide_eq_true_eq] at hbounds
  have hcode : first + d = c.toNat := by rw [← hvalue, Nat.add_sub_cancel' hbounds.1]
  rw [asciiForm?, asciiDigit, hd, Option.getD_some]
  rcases digitZeros_cases first hmem with hascii | hother
  · have hlow : c.toNat < 127 := by
      have hzero : '0'.toNat = 48 := rfl
      have hlt : d < 10 := digit?_lt hd
      omega
    rw [if_pos hlow, ← hascii, hcode, Char.ofNat_toNat]
  · have hblank : isBlank c = false := by
      rw [← Char.ofNat_toNat c, ← hcode]
      exact isBlank_digits first hmem d (digit?_lt hd)
    rw [if_neg (by omega), hblank, if_neg Bool.false_ne_true]
    rfl

theorem mapM_asciiForm? {digits : List Char} (h : ∀ c ∈ digits, isDigit c = true) :
    digits.mapM asciiForm? = some (digits.map asciiDigit) := by
  induction digits with
  | nil => rfl
  | cons c digits ih =>
      obtain ⟨hc, hdigits⟩ := List.forall_mem_cons.mp h
      rw [List.mapM_cons, asciiForm?_of_isDigit hc, ih hdigits]
      rfl

theorem asciiDigit_spec (c : Char) :
    (asciiDigit c).isDigit = true ∧ digitValue (asciiDigit c) = (digit? c).getD 0 := by
  have hlt : (digit? c).getD 0 < 10 := by
    cases hd : digit? c with
    | none => decide
    | some d => exact digit?_lt hd
  unfold asciiDigit
  generalize (digit? c).getD 0 = d at hlt
  revert d
  decide

/-! ## The reader on ASCII digits -/

variable {digits : List Char}

theorem toNat_of_isDigit {c : Char} (h : c.isDigit = true) : 48 ≤ c.toNat ∧ c.toNat ≤ 57 := by
  simp only [Char.isDigit, Bool.and_eq_true, decide_eq_true_eq] at h
  exact h

theorem isAsciiBlank_of_isDigit {c : Char} (h : c.isDigit = true) : isAsciiBlank c = false := by
  obtain ⟨hlow, -⟩ := toNat_of_isDigit h
  have hspace : c ≠ ' ' := by
    rintro rfl
    exact absurd hlow (by decide)
  simp only [isAsciiBlank, Bool.or_eq_false_iff, Bool.and_eq_false_iff, decide_eq_false_iff_not,
    beq_eq_false_iff_ne]
  exact ⟨Or.inr (by omega), hspace⟩

theorem dropWhile_isAsciiBlank (h : ∀ c ∈ digits, c.isDigit = true) :
    digits.dropWhile isAsciiBlank = digits := by
  cases digits with
  | nil => rfl
  | cons c digits =>
      exact List.dropWhile_cons_of_neg
        (by rw [isAsciiBlank_of_isDigit (h c List.mem_cons_self)]; exact Bool.false_ne_true)

theorem trimBy_digits (h : ∀ c ∈ digits, c.isDigit = true) :
    trimBy isAsciiBlank digits = digits := by
  rw [trimBy, trimRightBy, dropWhile_isAsciiBlank h,
    dropWhile_isAsciiBlank fun c hc => h c (List.mem_reverse.mp hc), List.reverse_reverse]

theorem digits?_of_isDigit (hne : digits ≠ []) (h : ∀ c ∈ digits, c.isDigit = true) :
    digits? digits = some (digits.map digitValue) := by
  induction digits with
  | nil => exact absurd rfl hne
  | cons c digits ih =>
      obtain ⟨hc, hdigits⟩ := List.forall_mem_cons.mp h
      cases digits with
      | nil => rw [digits?, if_pos hc]; rfl
      | cons d digits =>
          have hmark : d ≠ '_' := by
            rintro rfl
            exact absurd (hdigits '_' List.mem_cons_self) (by decide)
          rw [digits?, if_pos hc, ih (List.cons_ne_nil d digits) hdigits]
          · rfl
          · exact List.cons_ne_nil d digits
          · exact fun rest hcons => hmark (List.cons.inj hcons).1

theorem signed?_of_isDigit (hne : digits ≠ []) (h : ∀ c ∈ digits, c.isDigit = true) :
    signed? digits =
      if digits.length ≤ maxDigits then some (ofDigits (digits.map digitValue) : Int)
      else none := by
  have hnatural : natural? digits =
      if digits.length ≤ maxDigits then some (ofDigits (digits.map digitValue)) else none := by
    rw [natural?, digits?_of_isDigit hne h, Option.bind_eq_bind, Option.bind_some, List.length_map]
  have hsigned : signed? digits = (natural? digits).map Int.ofNat := by
    unfold signed?
    split
    · exact absurd (h '-' List.mem_cons_self) (by decide)
    · exact absurd (h '+' List.mem_cons_self) (by decide)
    · rfl
  rw [hsigned, hnatural]
  split <;> rfl

end IntegerText

/-- Digits are read as the number that they stand for. -/
theorem parse?_digits {digits : List Char} (hne : digits ≠ [])
    (h : ∀ c ∈ digits, isDigit c = true) :
    IntegerText.parse? digits =
      if digits.length ≤ IntegerText.maxDigits then some (numeralValue digits : Int) else none := by
  have hascii : ∀ c ∈ digits.map IntegerText.asciiDigit, c.isDigit = true := by
    intro c hc
    obtain ⟨d, -, rfl⟩ := List.mem_map.mp hc
    exact (IntegerText.asciiDigit_spec d).1
  have hvalue : IntegerText.ofDigits ((digits.map IntegerText.asciiDigit).map digitValue)
      = numeralValue digits := by
    rw [IntegerText.ofDigits, numeralValue, List.map_map, List.foldl_map]
    simp only [Function.comp_apply, (IntegerText.asciiDigit_spec _).2]
  rw [IntegerText.parse?, IntegerText.mapM_asciiForm? h, Option.bind_eq_bind, Option.bind_some,
    IntegerText.trimBy_digits hascii,
    IntegerText.signed?_of_isDigit (fun hnil => hne (List.map_eq_nil_iff.mp hnil)) hascii,
    List.length_map, hvalue]

/-! ## Decimal notation -/

/-- ASCII digits stand for what they are. -/
theorem digit?_of_isDigit {c : Char} (h : c.isDigit = true) : digit? c = some (digitValue c) := by
  obtain ⟨hlow, hhigh⟩ := IntegerText.toNat_of_isDigit h
  have hzeros : digitZeros = 0x30 :: digitZeros.tail := rfl
  rw [digit?, hzeros, List.find?_cons_of_pos]
  · rfl
  · simp only [Bool.and_eq_true, decide_eq_true_eq]
    omega

theorem isDigit_toDigits {n : Nat} {c : Char} (h : c ∈ Nat.toDigits 10 n) : isDigit c = true := by
  rw [isDigit, digit?_of_isDigit (Nat.isDigit_of_mem_toDigits (by decide) (by decide) h)]
  rfl

/-- The decimal digits of a number stand for it. -/
theorem numeralValue_toDigits (n : Nat) : numeralValue (Nat.toDigits 10 n) = n := by
  have hfold : ∀ (digits : List Char) (init : Nat), (∀ c ∈ digits, c.isDigit = true) →
      digits.foldl (fun n c => 10 * n + (digit? c).getD 0) init
        = Nat.ofDigitChars 10 digits init := by
    intro digits
    induction digits with
    | nil => exact fun _ _ => rfl
    | cons c digits ih =>
        intro init h
        obtain ⟨hc, hdigits⟩ := List.forall_mem_cons.mp h
        rw [List.foldl_cons, ih _ hdigits, digit?_of_isDigit hc]
        rfl
  rw [numeralValue, hfold _ 0 fun c => Nat.isDigit_of_mem_toDigits (by decide) (by decide)]
  exact Nat.ofDigitChars_ten_toDigits

end Accounts.Text
