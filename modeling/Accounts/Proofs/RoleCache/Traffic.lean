import Mathlib.Data.List.Induction
import Mathlib.Order.Lattice
import Accounts.Proofs.Table
import Accounts.RoleCache.Basic

/-!
# Traffic at the roles cache

Any number of callers share one cache: lookups start, wait for a loader that may answer
anything at any time, and finish or are cancelled, while users are invalidated, the cache is
cleared and the clock moves on. `Traffic` is the cache together with its clock and the tickets
of the lookups that wait, `Move` is what can happen next, and a run is a list of moves. The
loader is not a function here: what it returned comes with the move that ends the wait, so a
run ranges over all loaders and all stores behind them.

The bookkeeping of the cache is tied to the waiting lookups by `Balanced`: a user's pending
count is the number of waiting lookups of that user, a generation is kept only while there is
one, and no ticket is ahead of the cache. `Balanced` is kept by every move (`step_balanced`),
hence by every run.
-/

namespace Accounts.RoleCache

/-- What may happen at a cache. A lookup is known by its number, counted from zero in the
order in which lookups start. -/
inductive Move (τ : Type) where
  | start (userId : Int)
  /-- The loader of a lookup answered, or failed. -/
  | finish (lookup : Nat) (loaded : Option (List Role))
  | cancel (lookup : Nat)
  | invalidate (userId : Int)
  | clear
  /-- The clock shows a time; one that lies in the past leaves it as it is. -/
  | advance (time : τ)

/-- A cache under way. -/
structure Traffic (τ : Type) where
  cache : RoleCache τ
  now : τ
  /-- How many lookups were started. -/
  started : Nat
  /-- The tickets of the lookups that wait for their loader. -/
  flights : Table Nat Ticket

/-! ## The operations of the cache, field by field -/

section Operations

variable {τ : Type}

/-- The end of a lookup takes its user's generation with it if no other lookup of the user
is counted. -/
theorem release_generations (cache : RoleCache τ) (userId : Int) :
    (cache.release userId).generations =
      if cache.pendingCount userId - 1 = 0 then cache.generations.erase userId
      else cache.generations := by
  unfold release; dsimp only; split <;> rfl

theorem release_pending (cache : RoleCache τ) (userId : Int) :
    (cache.release userId).pending =
      if cache.pendingCount userId - 1 = 0 then cache.pending.erase userId
      else cache.pending.put userId (cache.pendingCount userId - 1) := by
  unfold release; dsimp only; split <;> rfl

theorem release_frame (cache : RoleCache τ) (userId : Int) :
    (cache.release userId).epoch = cache.epoch
      ∧ (cache.release userId).lifetime = cache.lifetime
      ∧ (cache.release userId).entries = cache.entries := by
  unfold release; dsimp only; split <;> exact ⟨rfl, rfl, rfl⟩

variable [LT τ] [DecidableLT τ]

/-- A lookup is answered by an entry that has not expired, or it is counted and gets a ticket
of the present epoch and generation. -/
theorem begin_cases (cache : RoleCache τ) (now : τ) (userId : Int) :
    (∃ entry, cache.entries.get? userId = some entry ∧ now < entry.expiresAt
      ∧ cache.begin now userId = (.cached entry.roles, cache))
    ∨ ∃ entries, (∀ entry ∈ entries, entry ∈ cache.entries)
      ∧ cache.begin now userId =
        (.loading ⟨userId, cache.epoch, cache.generation userId⟩,
          { cache with
            entries := entries
            pending := cache.pending.put userId (cache.pendingCount userId + 1) }) := by
  unfold begin enter
  split
  · rename_i entry hentry
    split
    · rename_i hlive
      exact Or.inl ⟨entry, hentry, hlive, rfl⟩
    · exact Or.inr ⟨_, fun _ hmem => (Table.mem_erase.mp hmem).1, rfl⟩
  · exact Or.inr ⟨_, fun _ hmem => hmem, rfl⟩

omit [LT τ] [DecidableLT τ] in
theorem record_frame [Add τ] (cache : RoleCache τ) (now : τ) (ticket : Ticket)
    (loaded : Option (List Role)) :
    ∃ entries, cache.record now ticket loaded = { cache with entries := entries } := by
  unfold record
  split
  · split <;> exact ⟨_, rfl⟩
  · exact ⟨_, rfl⟩

variable [Add τ]

theorem mem_sweep_entries {cache : RoleCache τ} {now : τ} {entry : Int × CachedRoles τ}
    (h : entry ∈ (cache.sweep now).entries) : entry ∈ cache.entries := by
  unfold sweep at h
  split at h
  · exact h
  · exact (List.mem_filter.mp h).1

/-- To the bookkeeping, the end of a lookup is its release. -/
theorem finish_frame (cache : RoleCache τ) (now : τ) (ticket : Ticket)
    (loaded : Option (List Role)) :
    ∃ entries nextSweep, cache.finish now ticket loaded =
      { cache.release ticket.userId with entries := entries, nextSweep := nextSweep } := by
  obtain ⟨recorded, hrec⟩ := cache.record_frame now ticket loaded
  have hrel : (cache.record now ticket loaded).release ticket.userId =
      { cache.release ticket.userId with entries := recorded } := by
    rw [hrec]
    unfold release
    dsimp only [pendingCount]
    split <;> rfl
  unfold finish
  rw [hrel]
  unfold sweep
  split <;> exact ⟨_, _, rfl⟩

/-- What the end of a lookup can leave in the cache: what was there, or the loaded roles if
the ticket was current. -/
theorem mem_finish_entries {cache : RoleCache τ} {now : τ} {ticket : Ticket}
    {loaded : Option (List Role)} {entry : Int × CachedRoles τ}
    (h : entry ∈ (cache.finish now ticket loaded).entries) :
    entry ∈ cache.entries
      ∨ ∃ roles, loaded = some roles ∧ cache.isCurrent ticket = true
        ∧ entry = (ticket.userId, ⟨roles.eraseDups, now + cache.lifetime⟩) := by
  have hrec := mem_sweep_entries h
  rw [(release_frame _ _).2.2] at hrec
  unfold record at hrec
  split at hrec
  · rename_i roles
    split at hrec
    · rename_i hcur
      rcases Table.mem_put hrec with heq | hmem
      · exact Or.inr ⟨roles, rfl, hcur, heq⟩
      · exact Or.inl hmem
    · exact Or.inl hrec
  · exact Or.inl hrec

theorem finish_epoch (cache : RoleCache τ) (now : τ) (ticket : Ticket)
    (loaded : Option (List Role)) : (cache.finish now ticket loaded).epoch = cache.epoch := by
  obtain ⟨_, _, h⟩ := cache.finish_frame now ticket loaded
  rw [h]
  exact (release_frame _ _).1

theorem finish_lifetime (cache : RoleCache τ) (now : τ) (ticket : Ticket)
    (loaded : Option (List Role)) :
    (cache.finish now ticket loaded).lifetime = cache.lifetime := by
  obtain ⟨_, _, h⟩ := cache.finish_frame now ticket loaded
  rw [h]
  exact (release_frame _ _).2.1

end Operations

theorem isCurrent_iff {τ : Type} {cache : RoleCache τ} {ticket : Ticket} :
    cache.isCurrent ticket = true
      ↔ ticket.epoch = cache.epoch ∧ ticket.generation = cache.generation ticket.userId := by
  simp [isCurrent]

namespace Traffic

variable {τ : Type}

/-! ## The bookkeeping -/

/-- A cache that nobody has used yet. -/
def opened (lifetime firstSweep now : τ) : Traffic τ :=
  ⟨RoleCache.empty lifetime firstSweep, now, 0, []⟩

/-- How many lookups of a user wait. -/
def inFlight (s : Traffic τ) (userId : Int) : Nat := s.flights.countP (·.2.userId == userId)

/-- The cache's bookkeeping agrees with the lookups that wait. -/
structure Balanced (s : Traffic τ) : Prop where
  unique : s.flights.Unique
  numbered : ∀ lookup ticket, s.flights.get? lookup = some ticket → lookup < s.started
  pending : ∀ userId, s.cache.pending.get? userId =
    if s.inFlight userId = 0 then none else some (s.inFlight userId)
  generations : ∀ userId, s.inFlight userId = 0 → s.cache.generations.get? userId = none
  epoch_le : ∀ lookup ticket, s.flights.get? lookup = some ticket →
    ticket.epoch ≤ s.cache.epoch
  generation_le : ∀ lookup ticket, s.flights.get? lookup = some ticket →
    ticket.generation ≤ s.cache.generation ticket.userId

theorem opened_balanced (lifetime firstSweep now : τ) :
    Balanced (opened lifetime firstSweep now) where
  unique := Table.unique_nil
  numbered := by intro lookup ticket h; cases h
  pending := fun _ => rfl
  generations := fun _ _ => rfl
  epoch_le := by intro lookup ticket h; cases h
  generation_le := by intro lookup ticket h; cases h

theorem Balanced.pendingCount {s : Traffic τ} (h : s.Balanced) (userId : Int) :
    s.cache.pendingCount userId = s.inFlight userId := by
  unfold RoleCache.pendingCount
  rw [h.pending]
  split <;> simp_all

theorem inFlight_pos {s : Traffic τ} {lookup : Nat} {ticket : Ticket}
    (h : s.flights.get? lookup = some ticket) : s.inFlight ticket.userId ≠ 0 := by
  refine Nat.ne_of_gt (List.countP_pos_iff.mpr ⟨_, Table.mem_of_get? h, ?_⟩)
  simp

/-- The lookup that a start adds to those in flight. -/
theorem Balanced.inFlight_put {s : Traffic τ} (hs : s.Balanced) (ticket : Ticket)
    (userId : Int) :
    (s.flights.put s.started ticket).countP (·.2.userId == userId) =
      s.inFlight userId + if ticket.userId = userId then 1 else 0 := by
  have hfresh : s.flights.get? s.started = none := by
    cases h : s.flights.get? s.started with
    | none => rfl
    | some ticket' => exact absurd (hs.numbered _ _ h) (Nat.lt_irrefl _)
  rw [Table.put_of_get?_none hfresh, List.countP_append, inFlight]
  simp [List.countP_cons]

/-- An invalidation counts a generation of its user, if a lookup of the user is in flight; every
other user stays where it was. -/
theorem Balanced.generations_invalidate {s : Traffic τ} (hs : s.Balanced) (userId : Int)
    {other : Int} (hother : s.inFlight other ≠ 0) :
    (s.cache.invalidate userId).generations.get? other =
      if userId = other then some (s.cache.generation other + 1)
      else s.cache.generations.get? other := by
  unfold invalidate
  dsimp only
  by_cases huser : userId = other
  · subst huser
    have hhas : s.cache.pending.has userId = true :=
      Table.has_eq_true.mpr ⟨_, by rw [hs.pending, if_neg hother]⟩
    rw [if_pos hhas, Table.get?_put_self, if_pos rfl]
  · rw [if_neg huser]
    split
    · rw [Table.get?_put, if_neg huser]
    · rfl

/-- A user with a lookup in flight is in the next generation after an invalidation; every
other user stays where it was. -/
theorem Balanced.generation_invalidate {s : Traffic τ} (hs : s.Balanced) (userId other : Int)
    (hother : s.inFlight other ≠ 0) :
    (s.cache.invalidate userId).generation other =
      s.cache.generation other + if userId = other then 1 else 0 := by
  unfold RoleCache.generation
  rw [hs.generations_invalidate userId hother]
  split <;> rfl

variable [Add τ] [LinearOrder τ]

/-! ## Runs -/

/-- Ends the wait of a lookup with what its loader returned, if anything. -/
def land (s : Traffic τ) (lookup : Nat) (ticket : Ticket) (loaded : Option (List Role)) :
    Traffic τ :=
  { s with
    cache := s.cache.finish s.now ticket loaded
    flights := s.flights.erase lookup }

/-- One move, with the answer of the lookup that it ends, if it ends one. A lookup that does
not wait cannot finish or be cancelled. -/
def step (s : Traffic τ) : Move τ → Option (List Role) × Traffic τ
  | .start userId =>
    match s.cache.begin s.now userId with
    | (.cached roles, cache) => (some roles, { s with cache, started := s.started + 1 })
    | (.loading ticket, cache) =>
      (none, { s with
        cache, started := s.started + 1, flights := s.flights.put s.started ticket })
  | .finish lookup loaded =>
    match s.flights.get? lookup with
    | some ticket => (some (answer loaded), s.land lookup ticket loaded)
    | none => (none, s)
  | .cancel lookup =>
    match s.flights.get? lookup with
    | some ticket => (none, s.land lookup ticket none)
    | none => (none, s)
  | .invalidate userId => (none, { s with cache := s.cache.invalidate userId })
  | .clear => (none, { s with cache := s.cache.clear })
  | .advance time => (none, { s with now := max s.now time })

/-- The state after a list of moves. -/
def run (s : Traffic τ) (moves : List (Move τ)) : Traffic τ :=
  moves.foldl (fun s move => (s.step move).2) s

theorem run_append (s : Traffic τ) (moves later : List (Move τ)) :
    s.run (moves ++ later) = (s.run moves).run later :=
  List.foldl_append

theorem run_concat (s : Traffic τ) (moves : List (Move τ)) (move : Move τ) :
    s.run (moves ++ [move]) = ((s.run moves).step move).2 := by
  rw [run_append]; rfl

/-! ## What a move does -/

/-- The effects a move can have, by the answers of the lookups. -/
theorem step_start_cases (s : Traffic τ) (userId : Int) :
    (∃ entry, s.cache.entries.get? userId = some entry ∧ s.now < entry.expiresAt
      ∧ s.step (.start userId) = (some entry.roles, { s with started := s.started + 1 }))
    ∨ ∃ entries, (∀ entry ∈ entries, entry ∈ s.cache.entries)
      ∧ s.step (.start userId) =
        (none, { s with
          cache := { s.cache with
            entries := entries
            pending := s.cache.pending.put userId (s.cache.pendingCount userId + 1) }
          started := s.started + 1
          flights := s.flights.put s.started
            ⟨userId, s.cache.epoch, s.cache.generation userId⟩ }) := by
  rcases begin_cases s.cache s.now userId with
    ⟨entry, hget, hlive, hbegin⟩ | ⟨entries, hsub, hbegin⟩
  · exact Or.inl ⟨entry, hget, hlive, by simp only [step, hbegin]⟩
  · exact Or.inr ⟨entries, hsub, by simp only [step, hbegin]⟩

theorem step_finish (s : Traffic τ) {lookup : Nat} {ticket : Ticket}
    (h : s.flights.get? lookup = some ticket) (loaded : Option (List Role)) :
    s.step (.finish lookup loaded) = (some (answer loaded), s.land lookup ticket loaded) := by
  simp only [step, h]

theorem step_finish_none (s : Traffic τ) {lookup : Nat} (h : s.flights.get? lookup = none)
    (loaded : Option (List Role)) : s.step (.finish lookup loaded) = (none, s) := by
  simp only [step, h]

theorem step_cancel (s : Traffic τ) {lookup : Nat} {ticket : Ticket}
    (h : s.flights.get? lookup = some ticket) :
    s.step (.cancel lookup) = (none, s.land lookup ticket none) := by
  simp only [step, h]

theorem step_cancel_none (s : Traffic τ) {lookup : Nat} (h : s.flights.get? lookup = none) :
    s.step (.cancel lookup) = (none, s) := by
  simp only [step, h]

/-- The clock never goes back. -/
theorem now_le_step (s : Traffic τ) (move : Move τ) : s.now ≤ (s.step move).2.now := by
  cases move with
  | start userId =>
      rcases s.step_start_cases userId with ⟨_, -, -, h⟩ | ⟨_, -, h⟩ <;> rw [h]
  | finish lookup loaded =>
      cases h : s.flights.get? lookup with
      | none => rw [s.step_finish_none h]
      | some ticket => rw [s.step_finish h]; rfl
  | cancel lookup =>
      cases h : s.flights.get? lookup with
      | none => rw [s.step_cancel_none h]
      | some ticket => rw [s.step_cancel h]; rfl
  | invalidate userId => exact le_refl _
  | clear => exact le_refl _
  | advance time => exact le_max_left _ _

theorem lifetime_step (s : Traffic τ) (move : Move τ) :
    (s.step move).2.cache.lifetime = s.cache.lifetime := by
  cases move with
  | start userId =>
      rcases s.step_start_cases userId with ⟨_, -, -, h⟩ | ⟨_, -, h⟩ <;> rw [h]
  | finish lookup loaded =>
      cases h : s.flights.get? lookup with
      | none => rw [s.step_finish_none h]
      | some ticket => rw [s.step_finish h]; exact finish_lifetime ..
  | cancel lookup =>
      cases h : s.flights.get? lookup with
      | none => rw [s.step_cancel_none h]
      | some ticket => rw [s.step_cancel h]; exact finish_lifetime ..
  | invalidate userId => rfl
  | clear => rfl
  | advance time => rfl

theorem lifetime_run (s : Traffic τ) (moves : List (Move τ)) :
    (s.run moves).cache.lifetime = s.cache.lifetime := by
  induction moves using List.reverseRecOn with
  | nil => rfl
  | append_singleton moves move ih => rw [run_concat, lifetime_step, ih]

/-! ## Moves keep the books -/

theorem Balanced.inFlight_land {s : Traffic τ} (hs : s.Balanced) {lookup : Nat}
    {ticket : Ticket} (h : s.flights.get? lookup = some ticket) (loaded : Option (List Role))
    (userId : Int) :
    s.inFlight userId =
      (s.land lookup ticket loaded).inFlight userId
        + if ticket.userId = userId then 1 else 0 := by
  have hcount := hs.unique.countP_erase h (·.2.userId == userId)
  simp only [beq_iff_eq] at hcount
  exact hcount

theorem get?_land {s : Traffic τ} {lookup other : Nat} {ticket ticket' : Ticket}
    {loaded : Option (List Role)}
    (h : (s.land lookup ticket loaded).flights.get? other = some ticket') :
    s.flights.get? other = some ticket' := by
  have herase : (s.flights.erase lookup).get? other = some ticket' := h
  rw [Table.get?_erase] at herase
  split at herase
  · cases herase
  · exact herase

/-- A user with a lookup left in flight keeps the generation when another one lands. -/
theorem Balanced.generations_land {s : Traffic τ} (hs : s.Balanced) {lookup : Nat}
    {ticket : Ticket} (h : s.flights.get? lookup = some ticket) (loaded : Option (List Role))
    {userId : Int} (hleft : (s.land lookup ticket loaded).inFlight userId ≠ 0) :
    (s.land lookup ticket loaded).cache.generations.get? userId =
      s.cache.generations.get? userId := by
  obtain ⟨_, _, hfin⟩ := s.cache.finish_frame s.now ticket loaded
  have hcount := hs.inFlight_land h loaded userId
  simp only [land, hfin, release_generations, hs.pendingCount]
  split
  · rename_i hlast
    rw [Table.get?_erase]
    split
    · rename_i huser
      subst huser
      rw [if_pos rfl] at hcount
      omega
    · rfl
  · rfl

theorem Balanced.generation_land {s : Traffic τ} (hs : s.Balanced) {lookup : Nat}
    {ticket : Ticket} (h : s.flights.get? lookup = some ticket) (loaded : Option (List Role))
    {userId : Int} (hleft : (s.land lookup ticket loaded).inFlight userId ≠ 0) :
    (s.land lookup ticket loaded).cache.generation userId = s.cache.generation userId := by
  unfold RoleCache.generation
  rw [hs.generations_land h loaded hleft]

theorem Balanced.land {s : Traffic τ} (hs : s.Balanced) {lookup : Nat} {ticket : Ticket}
    (h : s.flights.get? lookup = some ticket) (loaded : Option (List Role)) :
    (s.land lookup ticket loaded).Balanced where
  unique := hs.unique.erase lookup
  numbered other ticket' hget := hs.numbered other ticket' (get?_land hget)
  pending userId := by
    obtain ⟨_, _, hfin⟩ := s.cache.finish_frame s.now ticket loaded
    have hpend : (s.land lookup ticket loaded).cache.pending
        = (s.cache.release ticket.userId).pending := by rw [Traffic.land, hfin]
    have hcount := hs.inFlight_land h loaded userId
    rw [hpend, release_pending, hs.pendingCount]
    by_cases huser : ticket.userId = userId
    · subst huser
      rw [if_pos rfl] at hcount
      rw [hcount, Nat.add_sub_cancel]
      split
      · rw [Table.get?_erase_self]
      · rw [Table.get?_put_self]
    · rw [if_neg huser, Nat.add_zero] at hcount
      rw [← hcount, ← hs.pending userId]
      split
      · rw [Table.get?_erase, if_neg huser]
      · rw [Table.get?_put, if_neg huser]
  generations userId hnone := by
    obtain ⟨_, _, hfin⟩ := s.cache.finish_frame s.now ticket loaded
    have hgen : (s.land lookup ticket loaded).cache.generations
        = (s.cache.release ticket.userId).generations := by rw [Traffic.land, hfin]
    have hcount := hs.inFlight_land h loaded userId
    rw [hnone, Nat.zero_add] at hcount
    rw [hgen, release_generations, hs.pendingCount]
    by_cases huser : ticket.userId = userId
    · subst huser
      rw [if_pos rfl] at hcount
      rw [hcount, if_pos rfl, Table.get?_erase_self]
    · rw [if_neg huser] at hcount
      have hgone := hs.generations userId hcount
      split
      · rw [Table.get?_erase, if_neg huser, hgone]
      · exact hgone
  epoch_le other ticket' hget :=
    Nat.le_trans (hs.epoch_le other ticket' (get?_land hget)) (Nat.le_of_eq (finish_epoch ..).symm)
  generation_le other ticket' hget := by
    rw [hs.generation_land h loaded (inFlight_pos hget)]
    exact hs.generation_le other ticket' (get?_land hget)

theorem Balanced.start {s : Traffic τ} (hs : s.Balanced) (userId : Int) :
    (s.step (.start userId)).2.Balanced := by
  rcases s.step_start_cases userId with ⟨_, -, -, h⟩ | ⟨entries, -, h⟩ <;> rw [h]
  · exact { hs with numbered := fun lookup ticket hget =>
      Nat.lt_succ_of_lt (hs.numbered lookup ticket hget) }
  · have hget : ∀ {other ticket'},
        (s.flights.put s.started ⟨userId, s.cache.epoch, s.cache.generation userId⟩).get? other
          = some ticket' →
        (other = s.started ∧ ticket' = ⟨userId, s.cache.epoch, s.cache.generation userId⟩)
          ∨ s.flights.get? other = some ticket' := by
      intro other ticket' hput
      rw [Table.get?_put] at hput
      split at hput
      · rename_i heq
        exact Or.inl ⟨heq.symm, (Option.some.inj hput).symm⟩
      · exact Or.inr hput
    refine ⟨hs.unique.put _ _, fun other ticket' hput => ?_, fun u => ?_, fun u hnone => ?_,
      fun other ticket' hput => ?_, fun other ticket' hput => ?_⟩
    · rcases hget hput with ⟨rfl, -⟩ | hold
      · exact Nat.lt_succ_self _
      · exact Nat.lt_succ_of_lt (hs.numbered _ _ hold)
    · show (s.cache.pending.put userId (s.cache.pendingCount userId + 1)).get? u = _
      unfold inFlight
      rw [hs.inFlight_put, Table.get?_put, hs.pendingCount]
      by_cases huser : userId = u
      · subst huser
        simp
      · simp [huser, hs.pending u]
    · unfold inFlight at hnone
      rw [hs.inFlight_put] at hnone
      exact hs.generations u (by omega)
    · rcases hget hput with ⟨-, rfl⟩ | hold
      · exact Nat.le_refl _
      · exact hs.epoch_le _ _ hold
    · rcases hget hput with ⟨-, rfl⟩ | hold
      · exact Nat.le_refl _
      · exact hs.generation_le _ _ hold

theorem Balanced.invalidate {s : Traffic τ} (hs : s.Balanced) (userId : Int) :
    (s.step (.invalidate userId)).2.Balanced where
  unique := hs.unique
  numbered := hs.numbered
  pending := hs.pending
  generations u hnone := by
    have hidle : s.inFlight u = 0 := hnone
    have hgone := hs.generations u hidle
    show (if s.cache.pending.has userId = true then _ else _ : Table Int Nat).get? u = none
    split
    · rename_i hhas
      rw [Table.get?_put]
      split
      · rename_i huser
        subst huser
        obtain ⟨count, hcount⟩ := Table.has_eq_true.mp hhas
        rw [hs.pending, if_pos hidle] at hcount
        cases hcount
      · exact hgone
    · exact hgone
  epoch_le := hs.epoch_le
  generation_le lookup ticket hget := by
    show ticket.generation ≤ (s.cache.invalidate userId).generation ticket.userId
    rw [hs.generation_invalidate userId _ (inFlight_pos hget)]
    exact Nat.le_trans (hs.generation_le _ _ hget) (Nat.le_add_right _ _)

theorem step_balanced {s : Traffic τ} (hs : s.Balanced) (move : Move τ) :
    (s.step move).2.Balanced := by
  cases move with
  | start userId => exact hs.start userId
  | finish lookup loaded =>
      cases h : s.flights.get? lookup with
      | none => rw [s.step_finish_none h]; exact hs
      | some ticket => rw [s.step_finish h]; exact hs.land h loaded
  | cancel lookup =>
      cases h : s.flights.get? lookup with
      | none => rw [s.step_cancel_none h]; exact hs
      | some ticket => rw [s.step_cancel h]; exact hs.land h none
  | invalidate userId => exact hs.invalidate userId
  | clear =>
      exact { hs with
        epoch_le := fun lookup ticket hget =>
          Nat.le_succ_of_le (hs.epoch_le lookup ticket hget) }
  | advance time => exact { hs with }

theorem run_balanced (lifetime firstSweep now : τ) (moves : List (Move τ)) :
    ((opened lifetime firstSweep now).run moves).Balanced := by
  induction moves using List.reverseRecOn with
  | nil => exact opened_balanced lifetime firstSweep now
  | append_singleton moves move ih =>
      rw [run_concat]
      exact step_balanced ih move

end Traffic

end Accounts.RoleCache
