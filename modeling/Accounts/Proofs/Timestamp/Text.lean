import Accounts.Proofs.Json
import Accounts.Proofs.Timestamp.Calendar
import Accounts.Timestamp.Reader

/-!
# Timestamps as text

The text of a timestamp is read as this timestamp again (`IsShown.ofText_text`), provided that the
text shows all of it: the reading is in the years that can be shown, and the offset is whole minutes
and less than a day. Each part of the text is read back by the part of the reader that is for it,
and leaves what follows.
-/

namespace Accounts.Timestamp

open Reader

/-- A timestamp that its text shows in full. -/
structure IsShown (t : Timestamp) : Prop where
  reading : inRange t.reading = true
  offset : ∀ seconds, t.offset = some seconds → seconds % 60 = 0 ∧ seconds.natAbs < 86400

/-! ## Numerals -/

/-- The decimal digits of a number, so many of them. -/
structure IsNumeral (width n : Nat) (text : List Char) : Prop where
  digits : ∀ c ∈ text, c.isDigit
  length : text.length = width
  value : Nat.ofDigitChars 10 text 0 = n

theorem isDigit_of_mem_padded {width n : Nat} {c : Char} (h : c ∈ padded width n) : c.isDigit := by
  rcases List.mem_append.mp h with hzero | hdigit
  · rw [List.eq_of_mem_replicate hzero]
    rfl
  · exact Nat.isDigit_of_mem_toDigits (by decide) (by decide) hdigit

theorem isAscii_padded (width n : Nat) : Json.IsAscii (padded width n) := by
  intro c hc
  have hdigit := isDigit_of_mem_padded hc
  simp only [Char.isDigit, Bool.and_eq_true, decide_eq_true_eq] at hdigit
  have hle : c.toNat ≤ 57 := hdigit.2
  omega

theorem isNumeral_padded (width : Nat) {n : Nat} (hwidth : 0 < width) (h : n < 10 ^ width) :
    IsNumeral width n (padded width n) := by
  have hlength : (Nat.toDigits 10 n).length ≤ width :=
    (Nat.length_toDigits_le_iff (by decide) hwidth).mpr h
  refine ⟨fun _ => isDigit_of_mem_padded, ?_, ?_⟩
  · rw [padded, Decimal.Shortest.padLeft, Decimal.Shortest.natText, List.length_append,
      List.length_replicate]
    omega
  · rw [padded, Decimal.Shortest.padLeft, Decimal.Shortest.natText, Nat.ofDigitChars_append,
      Nat.ofDigitChars_replicate_zero, Nat.mul_zero, Nat.ofDigitChars_ten_toDigits]

theorem two?_eq_some {a b : Char} (ha : a.isDigit) (hb : b.isDigit) :
    two? a b = some ((a.toNat - 48) * 10 + (b.toNat - 48)) := by
  rw [two?, ha, hb]
  rfl

theorem exists_padded_two {n : Nat} (h : n < 100) :
    ∃ a b, padded 2 n = [a, b] ∧ two? a b = some n := by
  obtain ⟨hdigits, hlength, hvalue⟩ := isNumeral_padded 2 (by decide) h
  obtain ⟨a, b, htext⟩ := List.length_eq_two.mp hlength
  rw [htext] at hdigits hvalue ⊢
  refine ⟨a, b, rfl, ?_⟩
  rw [two?_eq_some (hdigits a (by simp)) (hdigits b (by simp)), ← hvalue]
  simp only [Nat.ofDigitChars_cons, Nat.ofDigitChars_nil]
  congr 1
  change (a.toNat - 48) * 10 + (b.toNat - 48) = 10 * (10 * 0 + (a.toNat - 48)) + (b.toNat - 48)
  omega

theorem exists_padded_below {n : Nat} (bound : Nat) (h : n < bound) (hbound : bound ≤ 100) :
    ∃ a b, padded 2 n = [a, b] ∧ twoBelow? bound a b = some n := by
  obtain ⟨a, b, htext, hread⟩ := exists_padded_two (n := n) (by omega)
  refine ⟨a, b, htext, ?_⟩
  rw [twoBelow?, hread, Option.filter_some, decide_eq_true h]
  rfl

theorem exists_padded_four {n : Nat} (h : n < 10000) :
    ∃ a b c d century decade, padded 4 n = [a, b, c, d] ∧ two? a b = some century
      ∧ two? c d = some decade ∧ century * 100 + decade = n := by
  obtain ⟨hdigits, hlength, hvalue⟩ := isNumeral_padded 4 (by decide) h
  obtain ⟨a, b, c, d, htext⟩ : ∃ a b c d, padded 4 n = [a, b, c, d] := by
    match hpadded : padded 4 n, hlength with
    | [a, b, c, d], _ => exact ⟨a, b, c, d, rfl⟩
  rw [htext] at hdigits hvalue ⊢
  refine ⟨a, b, c, d, _, _, rfl, two?_eq_some (hdigits a (by simp)) (hdigits b (by simp)),
    two?_eq_some (hdigits c (by simp)) (hdigits d (by simp)), ?_⟩
  rw [← hvalue]
  simp only [Nat.ofDigitChars_cons, Nat.ofDigitChars_nil]
  change _ = 10 * (10 * (10 * (10 * 0 + (a.toNat - 48)) + (b.toNat - 48)) + (c.toNat - 48))
    + (d.toNat - 48)
  omega

/-! ## The parts of a text -/

theorem daysInMonth_le (year month : Nat) : daysInMonth year month ≤ 31 := by
  unfold daysInMonth
  repeat' split
  all_goals decide

/-- A date as it stands in a text. -/
def dateText (year month day : Nat) : List Char :=
  padded 4 year ++ '-' :: padded 2 month ++ '-' :: padded 2 day

/-- A date at the front is read, and what follows is left. -/
theorem date_dateText {year month day : Nat} (hyear : year ≤ 9999) (h : IsDate year month day)
    (tail : List Char) :
    date (dateText year month day ++ tail) = .ok (daysOfDate year month day, year, tail) := by
  obtain ⟨hlow, hhigh, hfirst, hlast⟩ := h
  have hmonth := daysInMonth_le year month
  obtain ⟨y₁, y₂, y₃, y₄, century, decade, hy, hcentury, hdecade, hsum⟩ :=
    exists_padded_four (n := year) (by omega)
  obtain ⟨m₁, m₂, hm, hmonth'⟩ := exists_padded_two (n := month) (by omega)
  obtain ⟨d₁, d₂, hd, hday⟩ := exists_padded_two (n := day) (by omega)
  rw [dateText, hy, hm, hd]
  simp only [List.cons_append, List.nil_append]
  simp only [date, hcentury, hdecade, hmonth', hday, bne_self_eq_false, Bool.false_eq_true,
    if_false, hsum]
  rw [if_neg (by simp; omega), if_neg (by simp; omega)]

/-- What follows the seconds: it does not begin like a fraction, nor go on with one. -/
def EndsClock (tail : List Char) : Prop :=
  ∀ c ∈ tail.head?, c.isDigit = false ∧ c ≠ '.' ∧ c ≠ ','

theorem fractionMicros_padded {micros : Nat} (h : micros < 1000000) :
    fractionMicros (padded 6 micros) = micros := by
  obtain ⟨-, hlength, hvalue⟩ := isNumeral_padded 6 (by decide) h
  have htake : (padded 6 micros ++ List.replicate 6 '0').take 6 = padded 6 micros := by
    rw [List.take_append_of_le_length hlength.ge, List.take_of_length_le hlength.le]
  rw [fractionMicros, htake]
  exact hvalue

theorem seconds?_text {second micros : Nat} (hsecond : second < 60) (hmicros : micros < 1000000)
    {tail : List Char} (htail : EndsClock tail) :
    seconds? (':' :: padded 2 second ++ (if micros = 0 then [] else '.' :: padded 6 micros) ++ tail)
      = some (second * 1000000 + micros, tail) := by
  obtain ⟨a, b, htext, hbelow⟩ := exists_padded_below 60 hsecond (by decide)
  rw [htext]
  split
  · rename_i hzero
    subst hzero
    cases tail with
    | nil =>
        unfold seconds?
        simp [hbelow]
    | cons mark more =>
        obtain ⟨-, hpoint, hcomma⟩ := htail mark rfl
        unfold seconds?
        simp [hbelow, hpoint, hcomma]
  · obtain ⟨hdigits, hlength, -⟩ := isNumeral_padded 6 (by decide) hmicros
    have hstop : tail.takeWhile Char.isDigit = [] ∧ tail.dropWhile Char.isDigit = tail := by
      cases tail with
      | nil => exact ⟨rfl, rfl⟩
      | cons mark more =>
          obtain ⟨hdigit, -, -⟩ := htail mark rfl
          simp [hdigit]
    have hnonempty : (padded 6 micros).isEmpty = false := by
      rw [List.isEmpty_eq_false_iff, ← List.length_pos_iff, hlength]
      decide
    unfold seconds?
    simp [hbelow, List.takeWhile_append_of_pos hdigits, List.dropWhile_append_of_pos hdigits,
      hstop, hnonempty, fractionMicros_padded hmicros]

/-- The offset of a timestamp that is shown is read back. -/
theorem offset?_text {offset : Option Int}
    (h : ∀ seconds, offset = some seconds → seconds % 60 = 0 ∧ seconds.natAbs < 86400) :
    offset? (offsetText offset) = some offset := by
  cases offset with
  | none => rfl
  | some seconds =>
      obtain ⟨hminutes, hday⟩ := h seconds rfl
      unfold offsetText
      split
      · rename_i heq
        cases heq
      · rename_i heq
        cases heq
        rfl
      · rename_i heq
        cases heq
        obtain ⟨a, b, hhour, hreadHour⟩ :=
          exists_padded_below (n := seconds.natAbs / 60 / 60) 24 (by omega) (by decide)
        obtain ⟨c, d, hminute, hreadMinute⟩ :=
          exists_padded_below (n := seconds.natAbs / 60 % 60) 60 (by omega) (by decide)
        have hsum : seconds.natAbs / 60 / 60 * 3600 + seconds.natAbs / 60 % 60 * 60
            = seconds.natAbs := by omega
        dsimp only
        rw [hhour, hminute]
        generalize seconds.natAbs / 60 / 60 = hours at hreadHour hsum
        generalize seconds.natAbs / 60 % 60 = minutes at hreadMinute hsum
        split
        · simp [offset?, hreadHour, hreadMinute]
          omega
        · simp [offset?, hreadHour, hreadMinute]
          omega

theorem endsClock_offsetText (offset : Option Int) : EndsClock (offsetText offset) := by
  unfold offsetText EndsClock
  split
  · simp
  · simp
  · dsimp only
    split <;> simp

/-- A clock reading behind a date, with the offset, as it stands in a text. -/
def clockText (inDay : Nat) (offset : Option Int) : List Char :=
  'T' :: padded 2 (inDay / 1000000 / 3600) ++ ':' :: padded 2 (inDay / 1000000 / 60 % 60) ++
    ':' :: padded 2 (inDay / 1000000 % 60) ++
    (if inDay % 1000000 = 0 then [] else '.' :: padded 6 (inDay % 1000000)) ++ offsetText offset

/-- A clock reading is read back with its offset. -/
theorem clock?_clockText {inDay : Nat} (hday : inDay < 86400000000) {offset : Option Int}
    (hoffset : ∀ seconds, offset = some seconds → seconds % 60 = 0 ∧ seconds.natAbs < 86400) :
    clock? (clockText inDay offset) = some (inDay, offset) := by
  obtain ⟨a, b, hhour, hreadHour⟩ :=
    exists_padded_below (n := inDay / 1000000 / 3600) 24 (by omega) (by decide)
  obtain ⟨c, d, hminute, hreadMinute⟩ :=
    exists_padded_below (n := inDay / 1000000 / 60 % 60) 60 (by omega) (by decide)
  have hsecond : inDay / 1000000 % 60 < 60 := Nat.mod_lt _ (by decide)
  have hmicros : inDay % 1000000 < 1000000 := Nat.mod_lt _ (by decide)
  have hseconds := seconds?_text hsecond hmicros (endsClock_offsetText offset)
  rw [clockText, hhour, hminute]
  simp only [List.cons_append, List.nil_append, List.append_assoc] at hseconds ⊢
  simp [clock?, hreadHour, hreadMinute, hseconds, offset?_text hoffset]
  omega

/-! ## The whole text -/

theorem octets_encode {text : List Char} (h : Json.IsAscii text) :
    (Text.Utf8.encode text).map (fun b => Char.ofNat b.toNat) = text := by
  induction text with
  | nil => rfl
  | cons c rest ih =>
      obtain ⟨hc, hrest⟩ := Json.isAscii_cons.mp h
      obtain ⟨hencode, hback⟩ := Json.encode_cons hc rest
      rw [hencode, List.map_cons, hback, Char.ofNat_toNat]
      exact congrArg (c :: ·) (ih hrest)

theorem isAscii_offsetText (offset : Option Int) : Json.IsAscii (offsetText offset) := by
  unfold offsetText
  split
  · exact Json.isAscii_nil
  · exact Json.isAscii_cons.mpr ⟨by decide, Json.isAscii_nil⟩
  · refine Json.isAscii_append.mpr ⟨Json.isAscii_cons.mpr ⟨?_, isAscii_padded _ _⟩,
      Json.isAscii_cons.mpr ⟨by decide, isAscii_padded _ _⟩⟩
    split <;> decide

theorem isAscii_dateText (year month day : Nat) : Json.IsAscii (dateText year month day) :=
  Json.isAscii_append.mpr ⟨Json.isAscii_append.mpr ⟨isAscii_padded _ _,
    Json.isAscii_cons.mpr ⟨by decide, isAscii_padded _ _⟩⟩,
    Json.isAscii_cons.mpr ⟨by decide, isAscii_padded _ _⟩⟩

theorem isAscii_clockText (inDay : Nat) (offset : Option Int) :
    Json.IsAscii (clockText inDay offset) := by
  have hnumber : ∀ (mark : Char) (width n : Nat), mark.toNat < 0x80 →
      Json.IsAscii (mark :: padded width n) := fun _ _ _ hmark =>
    Json.isAscii_cons.mpr ⟨hmark, isAscii_padded _ _⟩
  refine Json.isAscii_append.mpr ⟨Json.isAscii_append.mpr ⟨Json.isAscii_append.mpr
    ⟨Json.isAscii_append.mpr ⟨hnumber _ _ _ (by decide), hnumber _ _ _ (by decide)⟩,
      hnumber _ _ _ (by decide)⟩, ?_⟩, isAscii_offsetText offset⟩
  split
  · exact Json.isAscii_nil
  · exact hnumber _ _ _ (by decide)

/-- The text of a timestamp is a date with a clock reading. -/
theorem IsShown.text_eq {t : Timestamp} (h : t.IsShown) :
    ∃ year month day inDay : Nat, t.text = String.ofList (dateText year month day
        ++ clockText inDay t.offset)
      ∧ year ≤ 9999 ∧ IsDate year month day ∧ inDay < 86400000000
      ∧ daysOfDate year month day * microsPerDay + inDay = t.reading
      ∧ minReading ≤ t.reading := by
  have hreading := h.reading
  simp only [inRange, Bool.and_eq_true, decide_eq_true_eq] at hreading
  obtain ⟨hlow, hhigh⟩ := hreading
  have hmin : minReading = daysOfDate 1 1 1 * 86400000000 := rfl
  have hmax : maxReading = daysOfDate 10000 1 1 * 86400000000 - 1 := rfl
  have hmicros : microsPerDay = 86400000000 := rfl
  obtain ⟨days, hdays⟩ : ∃ days, days = t.reading / 86400000000 := ⟨_, rfl⟩
  obtain ⟨inDay, hinDay⟩ : ∃ inDay : Nat, (inDay : Int) = t.reading % 86400000000 :=
    ⟨(t.reading % 86400000000).toNat, by omega⟩
  obtain ⟨hdate, hfirst, hlast⟩ := @isDate_dateOfDays days (by omega) (by omega)
  have hback := daysOfDate_dateOfDays days
  unfold text
  rw [hmicros, ← hinDay, Int.toNat_natCast, ← hdays]
  rcases hcalendar : dateOfDays days with ⟨year, month, day⟩
  rw [hcalendar] at hdate hfirst hlast hback
  dsimp only at hdate hfirst hlast hback ⊢
  obtain ⟨year, rfl⟩ : ∃ n : Nat, year = n := ⟨year.toNat, by omega⟩
  rw [Int.toNat_natCast] at hdate ⊢
  refine ⟨year, month, day, inDay, ?_, by omega, hdate, by omega, by omega, hlow⟩
  simp only [dateText, clockText, List.append_assoc, List.cons_append]

/-- **The text of a timestamp is read as the timestamp.** -/
theorem IsShown.ofText_text {t : Timestamp} (h : t.IsShown) : ofText t.text = .ok t := by
  obtain ⟨year, month, day, inDay, htext, hyear, hdate, hinDay, hreading, hlow⟩ := h.text_eq
  have hclock := clock?_clockText hinDay h.offset
  have hshown : shown ⟨t.reading, t.offset⟩ = .ok t := if_pos hlow
  unfold ofText
  dsimp only
  rw [htext, String.toList_ofList, octets_encode (Json.isAscii_append.mpr
    ⟨isAscii_dateText year month day, isAscii_clockText inDay t.offset⟩),
    date_dateText hyear hdate]
  obtain ⟨mark, rest, hmark⟩ : ∃ mark rest, clockText inDay t.offset = mark :: rest := ⟨_, _, rfl⟩
  rw [hmark] at hclock ⊢
  dsimp only
  rw [hclock]
  dsimp only
  rw [hreading, hshown]
  rfl

end Accounts.Timestamp
