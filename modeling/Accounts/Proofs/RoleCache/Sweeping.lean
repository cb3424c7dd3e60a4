import Mathlib.Algebra.Order.Monoid.Unbundled.Basic
import Mathlib.Algebra.Order.Ring.Int
import Accounts.Proofs.RoleCache.Freshness

/-!
# Expired entries do not accumulate

Expired entries are swept out by the ends of lookups alone, and no more than once in a lifetime. So
there may be expired entries in the cache, but behind every end of a lookup they are few: whatever
is there was stored less than two lifetimes ago (`expired_swept`).

What carries the bound from one sweep to the next is tied to the time of the next sweep, not to the
clock (`Swept`): the next sweep is due no later than a lifetime behind the expiry of every entry.
A sweep makes it so, since all that it leaves expires later than it takes place; and what is stored
behind it expires later still. A lookup that is answered by the cache asks no loader and has no end
of its own.

Of the clock it is only needed that adding a lifetime keeps the order of times and leads to no
earlier time, which holds of rounded sums, too.
-/

namespace Accounts.RoleCache

/-- The lookup whose wait a move would end: by an answer, a failure or a cancellation. -/
def Move.ended? {τ : Type} : Move τ → Option Nat
  | .finish lookup _ | .cancel lookup => some lookup
  | _ => none

section Cache

variable {τ : Type} [Add τ] [LinearOrder τ]

/-- The end of a lookup before the next sweep is due leaves that one where it is; later, it is one,
and what it leaves has not expired. -/
theorem finish_sweep (cache : RoleCache τ) (now : τ) (ticket : Ticket)
    (loaded : Option (List Role)) :
    now < cache.nextSweep ∧ (cache.finish now ticket loaded).nextSweep = cache.nextSweep
      ∨ cache.nextSweep ≤ now
        ∧ (cache.finish now ticket loaded).nextSweep = now + cache.lifetime
        ∧ ∀ entry ∈ (cache.finish now ticket loaded).entries, now < entry.2.expiresAt := by
  obtain ⟨entries, hrecord⟩ := cache.record_frame now ticket loaded
  obtain ⟨-, hlifetime, -⟩ := release_frame (cache.record now ticket loaded) ticket.userId
  have hnext : ((cache.record now ticket loaded).release ticket.userId).nextSweep
      = cache.nextSweep := by
    rw [hrecord]
    unfold release
    dsimp only
    split <;> rfl
  unfold finish sweep
  rw [hnext, hlifetime, hrecord]
  split
  · rename_i hearly
    rw [hrecord] at hnext
    exact Or.inl ⟨hearly, hnext⟩
  · rename_i hdue
    refine Or.inr ⟨not_lt.mp hdue, rfl, fun entry hentry => ?_⟩
    exact of_decide_eq_true (List.mem_filter.mp hentry).2

end Cache

namespace Traffic

section Moves

variable {τ : Type} [Add τ] [LinearOrder τ] {s : Traffic τ} {move : Move τ}

/-- A move ends the wait of a lookup. -/
def Ends (s : Traffic τ) (move : Move τ) : Prop :=
  ∃ lookup ticket, move.ended? = some lookup ∧ s.flights.get? lookup = some ticket

/-- A move sweeps out what has expired. -/
def Sweeps (s : Traffic τ) (move : Move τ) : Prop := s.Ends move ∧ s.cache.nextSweep ≤ s.now

/-- A move ends a lookup, or it takes entries out at most and leaves the sweeps alone. -/
theorem step_entries_cases (s : Traffic τ) (move : Move τ) :
    (∃ lookup ticket loaded, s.flights.get? lookup = some ticket
        ∧ (s.step move).2 = s.land lookup ticket loaded)
      ∨ ¬s.Ends move ∧ (s.step move).2.cache.nextSweep = s.cache.nextSweep
        ∧ ∀ entry ∈ (s.step move).2.cache.entries, entry ∈ s.cache.entries := by
  have hidle : ∀ {lookup}, move.ended? = some lookup → s.flights.get? lookup = none →
      ¬s.Ends move := by
    rintro lookup hended hnone ⟨other, ticket, hother, hget⟩
    rw [hended] at hother
    cases hother
    rw [hnone] at hget
    cases hget
  have hnever : move.ended? = none → ¬s.Ends move := by
    rintro hended ⟨other, ticket, hother, -⟩
    rw [hended] at hother
    cases hother
  cases move with
  | start userId =>
      rcases s.step_start_cases userId with ⟨_, -, -, h⟩ | ⟨entries, hsub, h⟩ <;> rw [h]
      · exact Or.inr ⟨hnever rfl, rfl, fun _ hmem => hmem⟩
      · exact Or.inr ⟨hnever rfl, rfl, hsub⟩
  | finish lookup loaded =>
      cases h : s.flights.get? lookup with
      | none => exact Or.inr (by rw [s.step_finish_none h]; exact ⟨hidle rfl h, rfl, fun _ h => h⟩)
      | some ticket => exact Or.inl ⟨lookup, ticket, loaded, h, by rw [s.step_finish h]⟩
  | cancel lookup =>
      cases h : s.flights.get? lookup with
      | none => exact Or.inr (by rw [s.step_cancel_none h]; exact ⟨hidle rfl h, rfl, fun _ h => h⟩)
      | some ticket => exact Or.inl ⟨lookup, ticket, none, h, by rw [s.step_cancel h]⟩
  | invalidate userId =>
      exact Or.inr ⟨hnever rfl, rfl, fun _ hmem => (Table.mem_erase.mp hmem).1⟩
  | clear => exact Or.inr ⟨hnever rfl, rfl, fun _ hmem => absurd hmem List.not_mem_nil⟩
  | advance time => exact Or.inr ⟨hnever rfl, rfl, fun _ hmem => hmem⟩

/-- What the end of a lookup does to the sweeps. -/
theorem Ends.step (h : s.Ends move) :
    (s.step move).2.now = s.now
      ∧ (s.now < s.cache.nextSweep ∧ (s.step move).2.cache.nextSweep = s.cache.nextSweep
        ∨ s.cache.nextSweep ≤ s.now
          ∧ (s.step move).2.cache.nextSweep = s.now + s.cache.lifetime
          ∧ ∀ entry ∈ (s.step move).2.cache.entries, s.now < entry.2.expiresAt) := by
  rcases s.step_entries_cases move with ⟨lookup, ticket, loaded, -, hstep⟩ | ⟨hnot, -⟩
  · rw [hstep]
    exact ⟨rfl, s.cache.finish_sweep s.now ticket loaded⟩
  · exact absurd h hnot

end Moves

/-! ## From one sweep to the next -/

variable {τ : Type} [AddZeroClass τ] [LinearOrder τ] [AddLeftMono τ] [AddRightMono τ]

/-- The next sweep is no more than a lifetime away, and it takes place no later than a lifetime
behind the expiry of whatever is in the cache. -/
structure Swept (s : Traffic τ) : Prop where
  lifetime : 0 ≤ s.cache.lifetime
  soon : s.cache.nextSweep ≤ s.now + s.cache.lifetime
  expires : ∀ entry ∈ s.cache.entries,
    s.cache.nextSweep ≤ entry.2.expiresAt + s.cache.lifetime

variable {s : Traffic τ}

omit [AddRightMono τ] in
theorem opened_swept {lifetime firstSweep start : τ} (hlifetime : 0 ≤ lifetime)
    (hstart : firstSweep ≤ start) : (opened lifetime firstSweep start).Swept where
  lifetime := hlifetime
  soon := hstart.trans (le_add_of_nonneg_right hlifetime)
  expires _ h := absurd h List.not_mem_nil

theorem Swept.land (hs : s.Swept) (lookup : Nat) (ticket : Ticket)
    (loaded : Option (List Role)) : (s.land lookup ticket loaded).Swept := by
  have hlifetime : (s.cache.finish s.now ticket loaded).lifetime = s.cache.lifetime :=
    finish_lifetime ..
  have hsweep := s.cache.finish_sweep s.now ticket loaded
  refine ⟨?_, ?_, fun entry hentry => ?_⟩ <;> simp only [Traffic.land, hlifetime] at *
  · exact hs.lifetime
  · rcases hsweep with ⟨-, hnext⟩ | ⟨-, hnext, -⟩ <;> rw [hnext]
    exact hs.soon
  · rcases hsweep with ⟨-, hnext⟩ | ⟨-, hnext, hleft⟩ <;> rw [hnext]
    · rcases mem_finish_entries hentry with hold | ⟨roles, -, -, rfl⟩
      · exact hs.expires entry hold
      · exact hs.soon.trans (le_add_of_nonneg_right hs.lifetime)
    · exact add_le_add_left (hleft entry hentry).le _

theorem Swept.step (hs : s.Swept) (move : Move τ) : (s.step move).2.Swept := by
  rcases s.step_entries_cases move with ⟨lookup, ticket, loaded, -, hstep⟩ | ⟨-, hnext, hsub⟩
  · rw [hstep]
    exact hs.land lookup ticket loaded
  · refine ⟨?_, ?_, fun entry hentry => ?_⟩ <;> rw [lifetime_step]
    · exact hs.lifetime
    · rw [hnext]
      exact hs.soon.trans (add_le_add_left (now_le_step s move) _)
    · rw [hnext]
      exact hs.expires entry (hsub entry hentry)

theorem Swept.run (hs : s.Swept) (moves : List (Move τ)) : (s.run moves).Swept := by
  induction moves using List.reverseRecOn with
  | nil => exact hs
  | append_singleton moves move ih =>
      rw [run_concat]
      exact ih.step move

/-- Behind the end of a lookup, nothing expired as long ago as a lifetime. -/
theorem Swept.of_ends (hs : s.Swept) {move : Move τ} (h : s.Ends move)
    {entry : Int × CachedRoles τ} (hentry : entry ∈ (s.step move).2.cache.entries) :
    (s.step move).2.now < entry.2.expiresAt + s.cache.lifetime := by
  have hafter := (hs.step move).expires entry hentry
  obtain ⟨hnow, ⟨hearly, hnext⟩ | ⟨-, -, hleft⟩⟩ := h.step
  · rw [hnext, lifetime_step] at hafter
    rw [hnow]
    exact hearly.trans_le hafter
  · rw [hnow]
    exact (hleft entry hentry).trans_le (le_add_of_nonneg_right hs.lifetime)

omit [AddRightMono τ] in
/-- The next sweep is never put off but by a sweep, and never brought forward. -/
theorem nextSweep_le_step (hlifetime : 0 ≤ s.cache.lifetime) (move : Move τ) :
    s.cache.nextSweep ≤ (s.step move).2.cache.nextSweep := by
  rcases s.step_entries_cases move with ⟨lookup, ticket, loaded, -, hstep⟩ | ⟨-, hnext, -⟩
  · rw [hstep, Traffic.land]
    rcases s.cache.finish_sweep s.now ticket loaded with ⟨-, hnext⟩ | ⟨hdue, hnext, -⟩ <;>
      dsimp only <;> rw [hnext]
    exact hdue.trans (le_add_of_nonneg_right hlifetime)
  · exact hnext.ge

omit [AddRightMono τ] in
theorem nextSweep_le_run (hlifetime : 0 ≤ s.cache.lifetime) (moves : List (Move τ)) :
    s.cache.nextSweep ≤ (s.run moves).cache.nextSweep := by
  induction moves using List.reverseRecOn with
  | nil => exact le_refl _
  | append_singleton moves move ih =>
      rw [run_concat]
      refine ih.trans (nextSweep_le_step ?_ move)
      rw [lifetime_run]
      exact hlifetime

omit [AddRightMono τ] in
/-- A sweep puts the next one off by a lifetime. -/
theorem Sweeps.lifetime_passes (hlifetime : 0 ≤ s.cache.lifetime) {sweep next : Move τ}
    (h : s.Sweeps sweep) {between : List (Move τ)}
    (hagain : (s.run (sweep :: between)).Sweeps next) :
    s.now + s.cache.lifetime ≤ (s.run (sweep :: between)).now := by
  obtain ⟨-, ⟨hearly, -⟩ | ⟨-, hnext, -⟩⟩ := h.1.step
  · exact absurd h.2 (not_le.mpr hearly)
  · have hlater := nextSweep_le_run (s := (s.step sweep).2) (by rwa [lifetime_step]) between
    rw [hnext] at hlater
    exact hlater.trans hagain.2

/-- **Expired entries do not accumulate.** Whatever moves were made, behind the end of a lookup, be
it by an answer, by a failure or by a cancellation, every entry expired less than a lifetime ago, if
at all, and expires no later than a lifetime from now: it is what a load of its user has stored,
with every role once, less than two lifetimes ago. Behind a sweep no entry has expired, and from one
sweep to the next a lifetime passes at least. -/
theorem expired_swept {lifetime start : τ} (hlifetime : 0 < lifetime) (hstart : 0 ≤ start)
    (moves : List (Move τ)) (move : Move τ) :
    let opened := opened lifetime 0 start
    let s := opened.run (moves ++ [move])
    ((opened.run moves).Ends move → ∀ entry ∈ s.cache.entries,
        s.now < entry.2.expiresAt + lifetime
          ∧ entry.2.expiresAt ≤ s.now + lifetime
          ∧ entry.2.roles.Nodup
          ∧ ∃ load : Load opened (moves ++ [move]) entry.1,
            entry.2 = ⟨load.loaded.eraseDups, load.finishedAt + lifetime⟩
              ∧ load.finishedAt ≤ s.now ∧ s.now < load.finishedAt + lifetime + lifetime)
      ∧ ((opened.run moves).Sweeps move → ∀ entry ∈ s.cache.entries, s.now < entry.2.expiresAt)
      ∧ ∀ earlier sweep between, moves = earlier ++ sweep :: between →
        (opened.run earlier).Sweeps sweep → (opened.run moves).Sweeps move →
        (opened.run earlier).now + lifetime ≤ (opened.run moves).now := by
  intro opened s
  have hopened : opened.Swept := opened_swept hlifetime.le hstart
  have hlife : ∀ moves, (opened.run moves).cache.lifetime = lifetime :=
    fun moves => lifetime_run opened moves
  have hs : s = ((opened.run moves).step move).2 := run_concat ..
  refine ⟨fun hends entry hentry => ?_, fun hsweeps => ?_, ?_⟩
  · have hlate : s.now < entry.2.expiresAt + lifetime := by
      rw [hs] at hentry ⊢
      have hbound := (hopened.run moves).of_ends hends hentry
      rwa [hlife] at hbound
    obtain ⟨load, -, hstored, hentry⟩ :=
      (run_fresh lifetime 0 start (moves ++ [move])).entries entry hentry
    have hexpires : entry.2.expiresAt = load.finishedAt + lifetime := by rw [hentry]; rfl
    refine ⟨hlate, ?_, ?_, load, hentry, hstored, hexpires ▸ hlate⟩
    · rw [hexpires]
      exact add_le_add_left hstored _
    · rw [hentry]
      exact nodup_eraseDups _
  · obtain ⟨hnow, ⟨hearly, -⟩ | ⟨-, -, hleft⟩⟩ := hsweeps.1.step
    · exact absurd hsweeps.2 (not_le.mpr hearly)
    · rw [hs, hnow]
      exact hleft
  · rintro earlier sweep between rfl hsweeps hagain
    rw [run_append] at hagain ⊢
    have hpasses := hsweeps.lifetime_passes (by rw [hlife]; exact hlifetime.le) hagain
    rwa [hlife] at hpasses

/-- User 2 was stored one tick before the second sweep was due, and has been expired for 500 ticks
when the third lookup ends: another sweep is not due yet, and the entry is still there. -/
theorem expired_swept_of_late :
    let moves : List (Move Int) :=
      [.start 1, .finish 0 (some [.user]), .start 2, .advance 599, .finish 1 (some [.user]),
        .advance 1100, .start 1, .finish 2 none, .start 1, .advance 1699]
    let s := (opened 600 0 0).run (moves ++ [.cancel 3])
    s.now = 1699 ∧ s.cache.entries.map (·.1) = [2]
      ∧ ∀ entry ∈ s.cache.entries, 1699 < entry.2.expiresAt + 600 := by
  intro moves s
  have hends : ((opened 600 0 0).run moves).Ends (.cancel 3) := ⟨3, ⟨1, 0, 0⟩, rfl, by decide⟩
  have hlifetime : (0 : Int) < 600 := by decide
  obtain ⟨hentries, -⟩ := expired_swept hlifetime (le_refl 0) moves (.cancel 3)
  have hnow : s.now = 1699 := by decide
  refine ⟨hnow, by decide, fun entry hentry => ?_⟩
  rw [← hnow]
  exact (hentries hends entry hentry).1

end Traffic

end Accounts.RoleCache
