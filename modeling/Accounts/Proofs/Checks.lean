/-!
# Checks in a row

A row of checks stops at the first one that fails. It ends well where all of them do, each with what
the ones before it made, and otherwise it fails as that one does.
-/

namespace Accounts

variable {ε α β : Type} {x : Except ε α} {f : α → Except ε β}

theorem bind_eq_ok {b : β} : x >>= f = .ok b ↔ ∃ a, x = .ok a ∧ f a = .ok b := by
  cases x with
  | error e => exact ⟨fun h => (by cases h), fun ⟨_, h, _⟩ => (by cases h)⟩
  | ok a => exact ⟨fun h => ⟨a, rfl, h⟩, fun ⟨_, ha, hb⟩ => by cases ha; exact hb⟩

theorem bind_eq_error {e : ε} :
    x >>= f = .error e ↔ x = .error e ∨ ∃ a, x = .ok a ∧ f a = .error e := by
  cases x with
  | error e' =>
      refine ⟨fun h => Or.inl (by cases h; rfl), ?_⟩
      rintro (h | ⟨_, h, _⟩)
      · cases h
        rfl
      · cases h
  | ok a =>
      refine ⟨fun h => Or.inr ⟨a, rfl, h⟩, ?_⟩
      rintro (h | ⟨_, h, he⟩)
      · cases h
      · cases h
        exact he

theorem map_eq_ok_iff {g : α → β} {b : β} : x.map g = .ok b ↔ ∃ a, x = .ok a ∧ g a = b := by
  cases x with
  | error e => exact ⟨fun h => (by cases h), fun ⟨_, h, _⟩ => (by cases h)⟩
  | ok a =>
      refine ⟨fun h => ⟨a, rfl, Except.ok.inj h⟩, fun ⟨_, ha, hb⟩ => ?_⟩
      cases ha
      exact congrArg Except.ok hb

theorem mapError_eq_ok {ε' : Type} {g : ε → ε'} {a : α} : x.mapError g = .ok a ↔ x = .ok a := by
  cases x with
  | error e => exact ⟨fun h => (by cases h), fun h => (by cases h)⟩
  | ok b => exact ⟨fun h => (by cases h; rfl), fun h => (by cases h; rfl)⟩

/-! ## What a check can fail with -/

/-- A check that fails with certain errors only. -/
def FailsOnly (allowed : ε → Prop) (x : Except ε α) : Prop := ∀ e, x = .error e → allowed e

variable {allowed : ε → Prop}

theorem failsOnly_ok (a : α) : FailsOnly allowed (.ok a) := fun _ h => by cases h

theorem failsOnly_error {e : ε} (h : allowed e) : FailsOnly allowed (.error e : Except ε α) :=
  fun _ heq => Except.error.inj heq ▸ h

theorem FailsOnly.mono {more : ε → Prop} (h : FailsOnly allowed x)
    (hmore : ∀ e, allowed e → more e) : FailsOnly more x := fun e he => hmore e (h e he)

theorem FailsOnly.bind (h : FailsOnly allowed x) (hf : ∀ a, FailsOnly allowed (f a)) :
    FailsOnly allowed (x >>= f) := by
  intro e he
  rcases bind_eq_error.mp he with hx | ⟨a, -, ha⟩
  · exact h e hx
  · exact hf a e ha

/-- An error that the first check cannot fail with is one of the checks behind it. -/
theorem FailsOnly.bind_eq_error_iff (h : FailsOnly allowed x) {e : ε} (he : ¬allowed e) :
    x >>= f = .error e ↔ ∃ a, x = .ok a ∧ f a = .error e :=
  bind_eq_error.trans (or_iff_right fun hx => he (h e hx))

end Accounts
