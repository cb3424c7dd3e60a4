import Accounts.Timestamp.Basic
import Mathlib.Tactic.IntervalCases

/-!
# The calendar

Every day has a date, and the date leads back to the day (`daysOfDate_dateOfDays`). The days are
counted in eras of four hundred years, and the years of an era from March on: a day of an era is so
many centuries, spells of four years, years and days on (`exists_dayOfEra`), and a day of a year is
so many months and days on (`exists_month`). In these counts everything is linear.
-/

namespace Accounts.Timestamp

/-- A day of an era in centuries, spells of four years, years and days. The last year of a spell has
one day more, unless it is the last of a century other than the last. -/
theorem exists_dayOfEra {day : Int} (hlow : 0 ≤ day) (hhigh : day < 146097) :
    ∃ century spell year rest : Int, day = 36524 * century + 1461 * spell + 365 * year + rest
      ∧ (0 ≤ century ∧ century ≤ 3) ∧ (0 ≤ spell ∧ spell ≤ 24) ∧ (0 ≤ year ∧ year ≤ 3)
      ∧ (0 ≤ rest ∧ rest ≤ 365) ∧ (rest = 365 → year = 3 ∧ (spell = 24 → century = 3)) := by
  obtain ⟨century, hcentury⟩ : ∃ century, century = min (day / 36524) 3 := ⟨_, rfl⟩
  obtain ⟨inCentury, hinCentury⟩ : ∃ rest, rest = day - 36524 * century := ⟨_, rfl⟩
  have hbefore : 0 ≤ inCentury ∧ inCentury ≤ 36524 ∧ (inCentury = 36524 → century = 3) := by omega
  obtain ⟨spell, hspell⟩ : ∃ spell, spell = inCentury / 1461 := ⟨_, rfl⟩
  obtain ⟨inSpell, hinSpell⟩ : ∃ rest, rest = inCentury - 1461 * spell := ⟨_, rfl⟩
  obtain ⟨year, hyear⟩ : ∃ year, year = min (inSpell / 365) 3 := ⟨_, rfl⟩
  exact ⟨century, spell, year, inSpell - 365 * year, by omega, by omega, by omega, by omega,
    by omega, by omega⟩

/-- What is taken from the days of an era before they are divided by the length of a year is the
leap days. -/
theorem yearOfEra_eq {day century spell year rest : Int}
    (hday : day = 36524 * century + 1461 * spell + 365 * year + rest)
    (hcentury : 0 ≤ century ∧ century ≤ 3) (hspell : 0 ≤ spell ∧ spell ≤ 24)
    (hyear : 0 ≤ year ∧ year ≤ 3) (hrest : 0 ≤ rest ∧ rest ≤ 365)
    (hleap : rest = 365 → year = 3 ∧ (spell = 24 → century = 3)) :
    (day - day / 1460 + day / 36524 - day / 146096) / 365
      = 100 * century + 4 * spell + year := by
  obtain ⟨spells, hspells⟩ : ∃ spells, spells = day / 1460 := ⟨_, rfl⟩
  -- the last day of an era counts as a fifth century, which is taken back
  have hcenturies : day / 36524 - day / 146096 = century := by
    have hbefore : day < 36524 * (century + 1) ∨ century = 3 := by omega
    obtain ⟨hlow, hhigh⟩ := hcentury
    interval_cases century <;> omega
  have hmost : spells = 25 * century + spell ∨ spells = 25 * century + spell + 1 := by omega
  have hlow : 0 ≤ rest - (spells - (25 * century + spell)) := by omega
  have hhigh : rest - (spells - (25 * century + spell)) < 365 := by omega
  rw [← hspells, Int.add_sub_assoc, hcenturies]
  clear hcenturies hspells hmost hleap
  omega

/-- The date in a year that is counted from March on. -/
def marchDate (year dayOfYear : Int) : Int × Nat × Nat :=
  let shifted := (5 * dayOfYear + 2) / 153
  let day := dayOfYear - (153 * shifted + 2) / 5 + 1
  let month := if shifted < 10 then shifted + 3 else shifted - 9
  (if month ≤ 2 then year + 1 else year, month.toNat, day.toNat)

/-- The date of a day is one in a year of an era. Only leap years have a last day of February. -/
theorem exists_marchDate (days : Int) :
    ∃ era year dayOfYear : Int, dateOfDays days = marchDate (year + era * 400) dayOfYear
      ∧ days = era * 146097 + (year * 365 + year / 4 - year / 100) + dayOfYear - 719468
      ∧ (0 ≤ year ∧ year ≤ 399) ∧ (0 ≤ dayOfYear ∧ dayOfYear ≤ 365)
      ∧ (dayOfYear = 365 → (year + 1) % 4 = 0
        ∧ ((year + 1) % 100 = 0 → (year + 1) % 400 = 0)) := by
  obtain ⟨day, hday⟩ : ∃ day, day = (days + 719468) % 146097 := ⟨_, rfl⟩
  obtain ⟨century, spell, year, rest, hsum, hcentury, hspell, hyear, hrest, hleap⟩ :=
    exists_dayOfEra (Int.emod_nonneg (days + 719468) (by decide))
      (Int.emod_lt_of_pos (days + 719468) (by decide))
  rw [← hday] at hsum
  obtain ⟨yearOfEra, hyearOfEra⟩ : ∃ y, y = 100 * century + 4 * spell + year := ⟨_, rfl⟩
  have hfour : yearOfEra / 4 = 25 * century + spell := by omega
  have hhundred : yearOfEra / 100 = century := by omega
  have hdays : days = (days + 719468) / 146097 * 146097 + day - 719468 := by omega
  refine ⟨(days + 719468) / 146097, yearOfEra, rest, ?_, ?_, by omega, hrest, fun hlast => ?_⟩
  · unfold dateOfDays
    dsimp only
    rw [← hday, yearOfEra_eq hsum hcentury hspell hyear hrest hleap, ← hyearOfEra, hfour, hhundred]
    have hrestEq : day - (365 * yearOfEra + (25 * century + spell) - century) = rest := by
      omega
    rw [hrestEq]
    rfl
  · rw [hfour, hhundred]
    clear hday
    omega
  · obtain ⟨rfl, hcentury'⟩ := hleap hlast
    clear hdays hsum hday
    omega

/-- The months of such a year begin on the days `(153 * shifted + 2) / 5`. -/
theorem exists_month {dayOfYear : Int} (hlow : 0 ≤ dayOfYear) (hhigh : dayOfYear ≤ 365)
    (year : Int) :
    ∃ shifted day : Nat, 1 ≤ day ∧ dayOfYear = (153 * shifted + 2) / 5 + day - 1
      ∧ dayOfYear < (153 * (shifted + 1) + 2) / 5
      ∧ (shifted < 10 ∧ marchDate year dayOfYear = (year, shifted + 3, day)
        ∨ (10 ≤ shifted ∧ shifted ≤ 11)
          ∧ marchDate year dayOfYear = (year + 1, shifted - 9, day)) := by
  obtain ⟨shifted, hshifted⟩ : ∃ shifted : Nat, (shifted : Int) = (5 * dayOfYear + 2) / 153 :=
    ⟨((5 * dayOfYear + 2) / 153).toNat, by omega⟩
  obtain ⟨day, hday⟩ : ∃ day : Nat, (day : Int) = dayOfYear - (153 * shifted + 2) / 5 + 1 :=
    ⟨(dayOfYear - (153 * shifted + 2) / 5 + 1).toNat, by omega⟩
  refine ⟨shifted, day, by omega, by omega, by omega, ?_⟩
  unfold marchDate
  dsimp only
  rw [← hshifted, ← hday, Int.toNat_natCast]
  by_cases hten : (shifted : Int) < 10
  · refine Or.inl ⟨by omega, ?_⟩
    simp only [hten, if_true]
    rw [if_neg (by omega), show ((shifted : Int) + 3).toNat = shifted + 3 by omega]
  · refine Or.inr ⟨by omega, ?_⟩
    simp only [hten, if_false]
    rw [if_pos (by omega), show ((shifted : Int) - 9).toNat = shifted - 9 by omega]

theorem daysOfDate_marchDate {year dayOfYear : Int} (hlow : 0 ≤ dayOfYear)
    (hhigh : dayOfYear ≤ 365) :
    daysOfDate (marchDate year dayOfYear).1 (marchDate year dayOfYear).2.1
        (marchDate year dayOfYear).2.2
      = year / 400 * 146097 + (year % 400 * 365 + year % 400 / 4 - year % 400 / 100) + dayOfYear
        - 719468 := by
  obtain ⟨shifted, day, -, hsum, -, ⟨hten, hdate⟩ | ⟨hten, hdate⟩⟩ :=
    exists_month hlow hhigh year
  · rw [hdate, hsum]
    unfold daysOfDate
    dsimp only
    rw [if_neg (by omega), if_pos (by omega)]
    omega
  · rw [hdate, hsum]
    unfold daysOfDate
    dsimp only
    rw [if_pos (by omega), if_neg (by omega), Int.add_sub_cancel]
    omega

/-- A date of the calendar. -/
structure IsDate (year month day : Nat) : Prop where
  month_pos : 1 ≤ month
  month_le : month ≤ 12
  day_pos : 1 ≤ day
  day_le : day ≤ daysInMonth year month

theorem isDate_marchDate {year dayOfYear : Int} (hlow : 0 ≤ dayOfYear) (hhigh : dayOfYear ≤ 365)
    (hleap : dayOfYear = 365 →
      (year + 1) % 4 = 0 ∧ ((year + 1) % 100 = 0 → (year + 1) % 400 = 0))
    (hyear : 0 ≤ (marchDate year dayOfYear).1) :
    IsDate (marchDate year dayOfYear).1.toNat (marchDate year dayOfYear).2.1
      (marchDate year dayOfYear).2.2 := by
  obtain ⟨shifted, day, hday, hsum, hnext, ⟨hten, hdate⟩ | ⟨hten, hdate⟩⟩ :=
    exists_month hlow hhigh year
  · rw [hdate]
    refine ⟨Nat.le_add_left_of_le (by decide), by dsimp only; omega, hday, ?_⟩
    clear hleap hdate
    interval_cases shifted <;> simp [daysInMonth] <;> omega
  · have hpos : 0 ≤ year + 1 := by rwa [hdate] at hyear
    rw [hdate]
    refine ⟨by dsimp only; omega, by dsimp only; omega, hday, ?_⟩
    dsimp only
    obtain rfl | rfl : shifted = 10 ∨ shifted = 11 := by omega
    · simp [daysInMonth]
      omega
    · unfold daysInMonth
      rw [if_pos rfl]
      split
      · omega
      · rename_i hcommon
        simp [isLeapYear] at hcommon
        omega

/-- The date of a day leads back to the day. -/
theorem daysOfDate_dateOfDays (days : Int) :
    daysOfDate (dateOfDays days).1 (dateOfDays days).2.1 (dateOfDays days).2.2 = days := by
  obtain ⟨era, year, dayOfYear, hdate, hdays, hyear, ⟨hlow, hhigh⟩, -⟩ := exists_marchDate days
  rw [hdate, daysOfDate_marchDate hlow hhigh, Int.add_mul_ediv_right _ _ (by decide),
    Int.ediv_eq_zero_of_lt hyear.1 (by omega), Int.add_mul_emod_self_right,
    Int.emod_eq_of_lt hyear.1 (by omega), hdays]
  omega

/-- The date of a day from year 1 to year 9999 is one of the calendar. -/
theorem isDate_dateOfDays {days : Int} (hlow : daysOfDate 1 1 1 ≤ days)
    (hhigh : days < daysOfDate 10000 1 1) :
    IsDate (dateOfDays days).1.toNat (dateOfDays days).2.1 (dateOfDays days).2.2
      ∧ 1 ≤ (dateOfDays days).1 ∧ (dateOfDays days).1 ≤ 9999 := by
  have hfirst : daysOfDate 1 1 1 = -719162 := by decide
  have hlast : daysOfDate 10000 1 1 = 2932897 := by decide
  obtain ⟨era, year, dayOfYear, hdate, hdays, hyear, ⟨hlow', hhigh'⟩, hleap⟩ :=
    exists_marchDate days
  obtain ⟨shifted, day, hday, hsum, hnext, hmonth⟩ :=
    exists_month hlow' hhigh' (year + era * 400)
  have hera : 0 ≤ era ∧ era ≤ 24 := by omega
  have hbounds : 1 ≤ (dateOfDays days).1 ∧ (dateOfDays days).1 ≤ 9999 := by
    rw [hdate]
    rcases hmonth with ⟨hten, hmonth⟩ | ⟨hten, hmonth⟩
    · rw [hmonth]
      dsimp only
      omega
    · rw [hmonth]
      dsimp only
      obtain hless | ⟨rfl, rfl⟩ : year + era * 400 < 9999 ∨ era = 24 ∧ year = 399 := by omega
      · omega
      · omega
  refine ⟨?_, hbounds⟩
  rw [hdate] at hbounds ⊢
  refine isDate_marchDate hlow' hhigh' (fun h => ?_) (by omega)
  obtain ⟨hfour, hhundred⟩ := hleap h
  clear hbounds hdays hday hsum hnext hmonth
  omega

end Accounts.Timestamp
