import Accounts.Proofs.RoleCache.Traffic

/-!
# The cache's books are exact

The cache keeps two maps about lookups that wait for their loader: how many there are of each user,
and how often each of these users was invalidated. Both are exact after every move of every run
(`bookkeeping_exact`), whatever the clock shows: the first is the number of lookups in flight, the
second counts the invalidations since lookups of the user were last all finished. So both are empty
when nothing is in flight, and whoever ends a lookup finds the user's entry there.

That a generation goes with the last lookup of its user is what makes the count start anew: within
the moves since then (`BusySince`), nothing but an invalidation of the user touches it.
-/

namespace Accounts.RoleCache

/-- The move is an invalidation of a user. -/
def Move.invalidates {τ : Type} (userId : Int) : Move τ → Bool
  | .invalidate other => other == userId
  | _ => false

/-- The end of a lookup as a reading of the pending count that knows no default: there is none for a
user who is not counted. -/
def release? {τ : Type} (cache : RoleCache τ) (userId : Int) : Option (RoleCache τ) :=
  (cache.pending.get? userId).map fun count =>
    if count = 1 then
      { cache with
        pending := cache.pending.erase userId, generations := cache.generations.erase userId }
    else { cache with pending := cache.pending.put userId (count - 1) }

namespace Traffic

variable {τ : Type} [Add τ] [LinearOrder τ]

/-! ## Moves under any clock -/

/-- A move, with the time that the clock shows for it. -/
abbrev Timed (τ : Type) := τ × Move τ

/-- A move at the time that it comes with, which may be any. -/
def stepAt (s : Traffic τ) (timed : Timed τ) : Traffic τ :=
  ({ s with now := timed.1 }.step timed.2).2

/-- The state after a list of moves, each at its own time. -/
def runAt (s : Traffic τ) (moves : List (Timed τ)) : Traffic τ := moves.foldl stepAt s

theorem runAt_concat (s : Traffic τ) (moves : List (Timed τ)) (timed : Timed τ) :
    s.runAt (moves ++ [timed]) = (s.runAt moves).stepAt timed := by
  rw [runAt, List.foldl_append]
  rfl

variable {s : Traffic τ}

omit [Add τ] [LinearOrder τ] in
/-- The books do not depend on the clock. -/
theorem Balanced.at (h : s.Balanced) (time : τ) : Balanced { s with now := time } := { h with }

theorem Balanced.stepAt (h : s.Balanced) (timed : Timed τ) : (s.stepAt timed).Balanced :=
  step_balanced (h.at timed.1) timed.2

theorem Balanced.runAt (h : s.Balanced) (moves : List (Timed τ)) : (s.runAt moves).Balanced := by
  induction moves using List.reverseRecOn with
  | nil => exact h
  | append_singleton moves timed ih =>
      rw [runAt_concat]
      exact ih.stepAt timed

/-! ## Generations -/

/-- While lookups of a user stay in flight, only an invalidation touches the user's generation. -/
theorem Balanced.generations_step (hs : s.Balanced) (move : Move τ) {userId : Int}
    (hleft : (s.step move).2.inFlight userId ≠ 0) :
    (s.step move).2.cache.generations.get? userId =
      if move.invalidates userId then some (s.cache.generation userId + 1)
      else s.cache.generations.get? userId := by
  have hland : ∀ {lookup ticket loaded}, s.flights.get? lookup = some ticket →
      (s.step move).2 = s.land lookup ticket loaded → move.invalidates userId = false →
      (s.step move).2.cache.generations.get? userId =
        if move.invalidates userId then some (s.cache.generation userId + 1)
        else s.cache.generations.get? userId := by
    intro lookup ticket loaded hget hstep hmove
    rw [hstep] at hleft ⊢
    rw [hs.generations_land hget loaded hleft, if_neg (by rw [hmove]; exact Bool.false_ne_true)]
  cases move with
  | start other =>
      rcases s.step_start_cases other with ⟨_, -, -, h⟩ | ⟨_, -, h⟩ <;> rw [h] <;> rfl
  | finish lookup loaded =>
      cases h : s.flights.get? lookup with
      | none => rw [s.step_finish_none h]; rfl
      | some ticket => exact hland h (by rw [s.step_finish h]) rfl
  | cancel lookup =>
      cases h : s.flights.get? lookup with
      | none => rw [s.step_cancel_none h]; rfl
      | some ticket => exact hland h (by rw [s.step_cancel h]) rfl
  | invalidate other =>
      have hgenerations := hs.generations_invalidate other
        (show s.inFlight userId ≠ 0 from hleft)
      simp only [Move.invalidates, beq_iff_eq]
      exact hgenerations
  | clear => rfl
  | advance time => rfl

/-- Behind the moves `earlier` no lookup of the user is in flight, and ever since, during the moves
`later`, some lookup of the user was. -/
structure BusySince (s : Traffic τ) (earlier later : List (Timed τ)) (userId : Int) : Prop where
  idle : (s.runAt earlier).inFlight userId = 0
  busy : ∀ n < later.length, (s.runAt (earlier ++ later.take (n + 1))).inFlight userId ≠ 0

/-- How often a user is invalidated by some moves. -/
def invalidations (moves : List (Timed τ)) (userId : Int) : Nat :=
  moves.countP (·.2.invalidates userId)

/-- An entry that is kept only where it counts something. -/
def counted (n : Nat) : Option Nat := if n = 0 then none else some n

omit [Add τ] [LinearOrder τ] in
theorem invalidations_concat (moves : List (Timed τ)) (timed : Timed τ) (userId : Int) :
    invalidations (moves ++ [timed]) userId =
      invalidations moves userId + if timed.2.invalidates userId then 1 else 0 := by
  rw [invalidations, List.countP_append, List.countP_singleton]
  rfl

theorem counted_getD (n : Nat) : (counted n).getD 0 = n := by
  unfold counted
  split
  · rename_i hzero
    exact hzero.symm
  · rfl

variable {earlier later : List (Timed τ)} {timed : Timed τ} {userId : Int}

theorem BusySince.nil (h : (s.runAt earlier).inFlight userId = 0) :
    BusySince s earlier [] userId :=
  ⟨h, fun _ hn => absurd hn (Nat.not_lt_zero _)⟩

theorem BusySince.concat (h : BusySince s earlier later userId)
    (hbusy : (s.runAt (earlier ++ (later ++ [timed]))).inFlight userId ≠ 0) :
    BusySince s earlier (later ++ [timed]) userId := by
  refine ⟨h.idle, fun n hn => ?_⟩
  rw [List.length_append, List.length_singleton] at hn
  rcases Nat.lt_succ_iff_lt_or_eq.mp hn with hold | rfl
  · rw [List.take_append_of_le_length hold]
    exact h.busy n hold
  · rw [List.take_of_length_le (by simp)]
    exact hbusy

theorem BusySince.of_concat (h : BusySince s earlier (later ++ [timed]) userId) :
    BusySince s earlier later userId
      ∧ (s.runAt (earlier ++ (later ++ [timed]))).inFlight userId ≠ 0 := by
  refine ⟨⟨h.idle, fun n hn => ?_⟩, ?_⟩
  · have hbusy := h.busy n (by simp; omega)
    rwa [List.take_append_of_le_length hn] at hbusy
  · have hbusy := h.busy later.length (by simp)
    rwa [List.take_of_length_le (by simp)] at hbusy

/-- A user's generation counts the invalidations since the user's lookups were last all
finished. -/
theorem BusySince.generations_eq (h : BusySince s earlier later userId) (hs : s.Balanced) :
    (s.runAt (earlier ++ later)).cache.generations.get? userId =
      counted (invalidations later userId) := by
  induction later using List.reverseRecOn with
  | nil =>
      rw [List.append_nil]
      exact (hs.runAt earlier).generations userId h.idle
  | append_singleton later timed ih =>
      obtain ⟨hbefore, hbusy⟩ := h.of_concat
      have hcount := ih hbefore
      have hnow := hs.runAt (earlier ++ later)
      rw [← List.append_assoc, runAt_concat] at hbusy ⊢
      have hstep := (hnow.at timed.1).generations_step timed.2 hbusy
      rw [Traffic.stepAt, hstep, invalidations_concat, RoleCache.generation]
      dsimp only
      rw [hcount, counted_getD]
      split
      · rfl
      · rfl

/-- Every run falls apart where the lookups of a user were last all finished. -/
theorem exists_busySince (hs : s.inFlight userId = 0) (moves : List (Timed τ)) :
    ∃ earlier later, moves = earlier ++ later ∧ BusySince s earlier later userId := by
  induction moves using List.reverseRecOn with
  | nil => exact ⟨[], [], rfl, .nil hs⟩
  | append_singleton moves timed ih =>
      by_cases hidle : (s.runAt (moves ++ [timed])).inFlight userId = 0
      · exact ⟨moves ++ [timed], [], (List.append_nil _).symm, .nil hidle⟩
      · obtain ⟨earlier, later, rfl, hbusy⟩ := ih
        rw [List.append_assoc] at hidle ⊢
        exact ⟨earlier, later ++ [timed], rfl, hbusy.concat hidle⟩

/-! ## The end of a lookup -/

omit [LinearOrder τ] in
/-- Whoever ends a lookup finds the user counted. -/
theorem Balanced.release?_eq_some (hs : s.Balanced) {lookup : Nat} {ticket : Ticket}
    (h : s.flights.get? lookup = some ticket) (loaded : Option (List Role)) :
    (s.cache.record s.now ticket loaded).release? ticket.userId =
      some ((s.cache.record s.now ticket loaded).release ticket.userId) := by
  obtain ⟨entries, hrecord⟩ := s.cache.record_frame s.now ticket loaded
  have hpending := hs.pending ticket.userId
  have hpos := inFlight_pos h
  rw [if_neg hpos] at hpending
  have hlast : s.inFlight ticket.userId = 1 ↔ s.inFlight ticket.userId - 1 = 0 := by omega
  rw [hrecord]
  unfold release? RoleCache.release RoleCache.pendingCount
  simp only [hpending, Option.map_some, Option.getD_some, hlast]

/-- **The books are exact.** After every run, under whatever clock: the pending count of a user is
the number of the user's lookups in flight, and there is none without one. A generation is kept of a
user with a lookup in flight only, and it is the number of the user's invalidations since lookups of
the user were last all finished. Without any lookup in flight, both maps are empty. And the end of a
lookup, by an answer, a failure or a cancellation, finds all that it looks for in them. -/
theorem bookkeeping_exact (lifetime firstSweep start : τ) (moves : List (Timed τ)) :
    let opened := opened lifetime firstSweep start
    let s := opened.runAt moves
    (∀ userId, s.cache.pending.get? userId = counted (s.inFlight userId))
      ∧ (∀ userId, s.inFlight userId = 0 → s.cache.generations.get? userId = none)
      ∧ (∀ userId, ∃ earlier later, moves = earlier ++ later
        ∧ BusySince opened earlier later userId)
      ∧ (∀ userId earlier later, moves = earlier ++ later →
        BusySince opened earlier later userId →
        s.cache.generations.get? userId = counted (invalidations later userId))
      ∧ (s.flights = [] → s.cache.pending = [] ∧ s.cache.generations = [])
      ∧ ∀ lookup ticket, s.flights.get? lookup = some ticket → ∀ now loaded,
        (s.cache.record now ticket loaded).release? ticket.userId =
          some ((s.cache.record now ticket loaded).release ticket.userId) := by
  intro opened s
  have hopened : opened.Balanced := opened_balanced lifetime firstSweep start
  have hs : s.Balanced := hopened.runAt moves
  refine ⟨hs.pending, hs.generations, fun userId => exists_busySince rfl moves, ?_,
    fun hnone => ⟨?_, ?_⟩, fun lookup ticket hget now loaded => ?_⟩
  · rintro userId earlier later rfl hbusy
    exact hbusy.generations_eq hopened
  · refine Table.eq_nil_of_get? fun userId => ?_
    rw [hs.pending, inFlight, hnone]
    rfl
  · refine Table.eq_nil_of_get? fun userId => hs.generations userId ?_
    rw [inFlight, hnone]
    rfl
  · exact (hs.at now).release?_eq_some hget loaded

/-- Two lookups of user 1 and two invalidations while they wait; the first lookup to end leaves the
other one counted, and the generation where it was. An invalidation from before counts for
nothing. -/
theorem bookkeeping_exact_of_race :
    let earlier : List (Timed Int) := [(0, .invalidate 1)]
    let later : List (Timed Int) :=
      [(0, .start 1), (5, .invalidate 1), (3, .start 1), (7, .invalidate 1),
        (7, .finish 0 (some [.user]))]
    let opened := opened (600 : Int) 0 0
    let s := opened.runAt (earlier ++ later)
    BusySince opened earlier later 1 ∧ s.cache.generations.get? 1 = some 2
      ∧ s.cache.pending.get? 1 = some 1 := by
  intro earlier later opened s
  have hbusy : BusySince opened earlier later 1 := ⟨by decide, by decide⟩
  obtain ⟨hpending, -, -, hgenerations, -⟩ :=
    bookkeeping_exact (600 : Int) 0 0 (earlier ++ later)
  exact ⟨hbusy, hgenerations 1 earlier later rfl hbusy, hpending 1⟩

end Traffic

end Accounts.RoleCache
