import Accounts.Proofs.Timestamp.Text

/-!
# What is read is shown

Whatever a timestamp is read from, its text shows it in full: the calendar of the reader ends with
year 9999, years before the first are refused, and an offset is read as hours and minutes of less
than a day. So what was read once, and shown, is read again as it was.
-/

namespace Accounts.Timestamp

open Reader

/-! ## The parts of a text -/

theorem two?_lt {a b : Char} {n : Nat} (h : two? a b = some n) : n < 100 := by
  unfold two? at h
  split at h
  · rename_i hdigits
    simp only [Char.isDigit, Bool.and_eq_true, decide_eq_true_eq] at hdigits
    have ha : a.toNat ≤ 57 := hdigits.1.2
    have hb : b.toNat ≤ 57 := hdigits.2.2
    cases h
    omega
  · cases h

theorem twoBelow?_lt {bound : Nat} {a b : Char} {n : Nat} (h : twoBelow? bound a b = some n) :
    n < bound := by
  obtain ⟨-, hbelow⟩ := Option.filter_eq_some_iff.mp h
  exact of_decide_eq_true hbelow

/-- No day up to year 9999 comes after the calendar. -/
theorem daysOfDate_lt {year month day : Nat} (hyear : year ≤ 9999) (hmonth : month ≤ 12)
    (hday : day ≤ 31) : daysOfDate year month day < daysOfDate 10000 1 1 := by
  have hlast : daysOfDate 10000 1 1 = 2932897 := by decide
  rw [hlast]
  unfold daysOfDate
  dsimp only
  by_cases hearly : month ≤ 2
  · rw [if_pos hearly, if_neg (by omega)]
    omega
  · rw [if_neg hearly, if_pos (by omega)]
    omega

/-- A day that is read is one of the calendar. -/
theorem date_lt {octets rest : Octets} {days : Int} {year : Nat}
    (h : date octets = .ok (days, year, rest)) : days < daysOfDate 10000 1 1 := by
  unfold date at h
  dsimp only at h
  repeat' split at h
  all_goals try cases h
  rename_i century hcentury _ decade hdecade _ _ month hmonth _ _ day hday hmonths hdays
  simp only [Bool.or_eq_true, decide_eq_true_eq, not_or, not_lt] at hmonths hdays
  have hhundred := two?_lt hcentury
  have hten := two?_lt hdecade
  exact daysOfDate_lt (by omega) hmonths.2 (hdays.2.trans (daysInMonth_le _ _))

theorem ofDigitChars_lt {text : List Char} (h : ∀ c ∈ text, c.isDigit) :
    Nat.ofDigitChars 10 text 0 < 10 ^ text.length := by
  induction text with
  | nil => decide
  | cons c rest ih =>
      have hdigit := h c List.mem_cons_self
      simp only [Char.isDigit, Bool.and_eq_true, decide_eq_true_eq] at hdigit
      have hle : c.toNat ≤ 57 := hdigit.2
      have hrest := ih fun c hc => h c (List.mem_cons_of_mem _ hc)
      rw [Nat.ofDigitChars_cons, Nat.ofDigitChars_eq_ofDigitChars_zero, List.length_cons,
        Nat.pow_succ]
      have hfirst : 10 * 0 + (c.toNat - '0'.toNat) ≤ 9 := by
        change 10 * 0 + (c.toNat - 48) ≤ 9
        omega
      have hmul := Nat.mul_le_mul_left (10 ^ rest.length) hfirst
      omega

theorem fractionMicros_lt {digits : Octets} (h : ∀ c ∈ digits, c.isDigit) :
    fractionMicros digits < 1000000 := by
  have hlength : ((digits ++ List.replicate 6 '0').take 6).length = 6 := by
    rw [List.length_take, List.length_append, List.length_replicate]
    omega
  have hdigits : ∀ c ∈ (digits ++ List.replicate 6 '0').take 6, c.isDigit := by
    intro c hc
    rcases List.mem_append.mp (List.mem_of_mem_take hc) with hdigit | hzero
    · exact h c hdigit
    · rw [List.eq_of_mem_replicate hzero]
      rfl
  have hlt := ofDigitChars_lt hdigits
  rw [hlength] at hlt
  exact hlt

theorem seconds?_lt {octets rest : Octets} {micros : Nat}
    (h : seconds? octets = some (micros, rest)) : micros < 60000000 := by
  unfold seconds? at h
  split at h
  · rename_i a b more
    obtain ⟨second, hsecond, h⟩ := Option.bind_eq_some_iff.mp h
    have hlt := twoBelow?_lt hsecond
    split at h
    · split at h
      · dsimp only at h
        split at h
        · cases h
        · rename_i fraction _ _ _
          have hdigits : (fraction.takeWhile Char.isDigit).all Char.isDigit = true :=
            List.all_takeWhile
          have hfraction := fractionMicros_lt (List.all_eq_true.mp hdigits)
          simp only [Option.some.injEq, Prod.mk.injEq] at h
          omega
      · simp only [Option.some.injEq, Prod.mk.injEq] at h
        omega
    · simp only [Option.some.injEq, Prod.mk.injEq] at h
      omega
  · cases h
  · simp only [Option.some.injEq, Prod.mk.injEq] at h
    omega

/-- An offset that is read is hours and minutes. -/
theorem whole_of_twoBelow? {sign : Int} (hsign : sign = 1 ∨ sign = -1) {a b c d : Char}
    {seconds : Int}
    (h : (do
      let hours ← twoBelow? 24 a b
      let minutes ← twoBelow? 60 c d
      some (some (sign * (hours * 3600 + minutes * 60 : Nat)))) = some (some seconds)) :
    seconds % 60 = 0 ∧ seconds.natAbs < 86400 := by
  obtain ⟨hours, hhours, h⟩ := Option.bind_eq_some_iff.mp h
  obtain ⟨minutes, hminutes, h⟩ := Option.bind_eq_some_iff.mp h
  have hday := twoBelow?_lt hhours
  have hhour := twoBelow?_lt hminutes
  simp only [Option.some.injEq] at h
  rcases hsign with rfl | rfl <;> omega

theorem offset?_whole {octets : Octets} {seconds : Int} (h : offset? octets = some (some seconds)) :
    seconds % 60 = 0 ∧ seconds.natAbs < 86400 := by
  unfold offset? at h
  split at h
  · cases h
  · cases h
    decide
  · cases h
    decide
  · dsimp only at h
    split at h
    · rename_i hsigned
      exact whole_of_twoBelow? (by split at hsigned <;> simp at hsigned <;> omega) h
    · rename_i hsigned
      exact whole_of_twoBelow? (by split at hsigned <;> simp at hsigned <;> omega) h
    · cases h

/-- A clock reading is one of a day. -/
theorem clock?_spec {octets : Octets} {inDay : Nat} {offset : Option Int}
    (h : clock? octets = some (inDay, offset)) :
    inDay < 86400000000
      ∧ ∀ seconds, offset = some seconds → seconds % 60 = 0 ∧ seconds.natAbs < 86400 := by
  unfold clock? at h
  split at h
  · split at h
    · cases h
    · obtain ⟨hours, hhours, h⟩ := Option.bind_eq_some_iff.mp h
      obtain ⟨minutes, hminutes, h⟩ := Option.bind_eq_some_iff.mp h
      obtain ⟨⟨micros, rest⟩, hmicros, h⟩ := Option.bind_eq_some_iff.mp h
      obtain ⟨read, hoffset, h⟩ := Option.bind_eq_some_iff.mp h
      have hday := twoBelow?_lt hhours
      have hhour := twoBelow?_lt hminutes
      have hminute := seconds?_lt hmicros
      simp only [Option.some.injEq, Prod.mk.injEq] at h
      obtain ⟨rfl, rfl⟩ := h
      exact ⟨by omega, fun seconds hread => offset?_whole (hread ▸ hoffset)⟩
  · cases h

/-! ## The forms -/

theorem isShown_of_shown {t : Timestamp} {seen : Timestamp} (h : shown t = .ok seen)
    (hlast : t.reading < daysOfDate 10000 1 1 * microsPerDay)
    (hoffset : ∀ seconds, t.offset = some seconds → seconds % 60 = 0 ∧ seconds.natAbs < 86400) :
    seen.IsShown := by
  unfold shown at h
  split at h
  · rename_i hfirst
    cases h
    refine ⟨?_, hoffset⟩
    have hmax : maxReading = daysOfDate 10000 1 1 * microsPerDay - 1 := rfl
    simp only [inRange, Bool.and_eq_true, decide_eq_true_eq]
    omega
  · cases h

theorem isShown_of_ofCount {count micros : Int} {t : Timestamp} (h : ofCount count micros = .ok t) :
    t.IsShown := by
  unfold ofCount at h
  dsimp only at h
  generalize (if count.natAbs ≤ watershed then count * microsPerSecond else count * 1000) + micros
    = reading at h
  split at h
  · cases h
  split at h
  · cases h
  split at h
  · cases h
  rename_i hlate _
  refine isShown_of_shown h ?_ fun seconds hseconds => ?_
  · have hlast : daysOfDate 10000 1 1 * microsPerDay = 253402300800 * 1000000 := by decide
    have hmicros : microsPerSecond = 1000000 := rfl
    rw [hmicros] at hlate
    rw [hlast, utc]
    dsimp only
    omega
  · cases hseconds
    decide

theorem isShown_of_ofInt {count : Int} {t : Timestamp} (h : ofInt count = .ok t) : t.IsShown := by
  unfold ofInt at h
  split at h
  · cases h
  · exact isShown_of_ofCount h

theorem isShown_of_ofFloat {count : Decimal.Binary64} {t : Timestamp}
    (h : Reader.ofFloat count = .ok t) : t.IsShown := by
  unfold Reader.ofFloat at h
  split at h
  · cases h
  · cases h
  · dsimp only at h
    split at h
    · exact isShown_of_ofCount h
    · cases h

/-- A number is read as a count, with a fraction or without. -/
theorem isShown_of_number? {text : Octets} {t : Timestamp} (h : number? text = some (.ok t)) :
    t.IsShown := by
  unfold number? at h
  dsimp only at h
  -- without a point, with one, or no number; each behind either sign or none
  repeat' split at h
  all_goals first
    | exact isShown_of_ofCount (Option.some.inj h)
    | obtain ⟨exponent, -, h⟩ := Option.bind_eq_some_iff.mp h
      exact isShown_of_ofFloat (Option.some.inj h)
    | cases h

theorem eq_ok_of_mapError {α β : Type} {seen : Except α Timestamp} {f : α → β} {t : Timestamp}
    (h : seen.mapError f = .ok t) : seen = .ok t := by
  cases seen with
  | error problem => cases h
  | ok value =>
      cases h
      rfl

/-- Whatever text a timestamp was read from, its own text shows it in full. -/
theorem isShown_of_ofText {text : String} {t : Timestamp} (h : ofText text = .ok t) :
    t.IsShown := by
  have hmicros : microsPerDay = 86400000000 := rfl
  unfold ofText at h
  dsimp only at h
  split at h
  · rename_i days _ hdate
    have hlt := date_lt hdate
    refine isShown_of_shown (eq_ok_of_mapError h) ?_ fun _ hnone => by cases hnone
    rw [hmicros]
    dsimp only
    omega
  · rename_i days _ rest _ hdate
    have hlt := date_lt hdate
    split at h
    · rename_i inDay offset hclock
      obtain ⟨hday, hoffset⟩ := clock?_spec hclock
      refine isShown_of_shown (eq_ok_of_mapError h) ?_ hoffset
      rw [hmicros]
      dsimp only
      omega
    · cases h
  · split at h
    · rename_i hnumber
      cases h
      exact isShown_of_number? hnumber
    all_goals cases h

end Accounts.Timestamp
