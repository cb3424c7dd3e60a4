import Accounts.Proofs.Run
import Accounts.Proofs.Service.RoleChange

/-!
# The cache and the store of roles

Lookups of roles and operations that change roles run side by side, over one cache and one store. A
lookup starts, its loader takes a snapshot of the store, and it finishes, fails or is cancelled; an
operation writes to the store and forgets the user concerned behind that, and anything may come
between. In `RoleTraffic` the users who are yet to be forgotten are *owed*, and the lookups move as
in the traffic at the cache.

A snapshot may be older than a write. But then the user was owed since the write, and once the user
is forgotten the ticket of the lookup is not current any more: `Coherent` says that snapshots of
current tickets, and entries of the cache, are as the store has it, but for users who are owed. So
where nobody is owed, the cache has what the store has (`cache_at_rest`).
-/

namespace Accounts

open RoleCache

/-- What may happen to shared roles. A lookup is known by its number, counted from zero in the order
in which lookups start. -/
inductive RoleMove where
  | start (userId : Int)
  /-- The loader of a lookup reads the store. Without a slot it is going to fail. -/
  | load (lookup : Nat)
  /-- A lookup goes on with what its loader has read. -/
  | finish (lookup : Nat)
  /-- A lookup goes on behind a failure of its loader. -/
  | fail (lookup : Nat)
  | cancel (lookup : Nat)
  | write (change : RoleChange)
  /-- The cache forgets a user behind a write. -/
  | forget (userId : Int)
  /-- Time passes, or is set, and the surroundings change. -/
  | meanwhile (now : Int) (slots : Slots) (supply : Supply)

/-- Roles that are looked up and changed side by side. -/
structure RoleTraffic where
  world : World
  /-- How many lookups were started. -/
  started : Nat
  /-- The tickets of the lookups that wait for their loader. -/
  flights : Table Nat Ticket
  /-- What loaders have read, by lookup. -/
  loaded : Table Nat (Option (List Role))
  /-- Whose roles were changed, and who is yet to be forgotten behind that. -/
  owed : List Int

namespace RoleTraffic

/-- A new cache in front of the store of a world. -/
def opened (lifetime firstSweep : Int) (w : World) : RoleTraffic :=
  ⟨{ w with cache := .empty lifetime firstSweep }, 0, [], [], []⟩

/-- What the cache sees of it. -/
def traffic (s : RoleTraffic) : Traffic Int := ⟨s.world.cache, s.world.now, s.started, s.flights⟩

/-- A move at the cache. -/
def atCache (s : RoleTraffic) (move : Move Int) : RoleTraffic :=
  let after := (s.traffic.step move).2
  { s with
    world := { s.world with cache := after.cache }
    started := after.started
    flights := after.flights }

/-- A loader reads the roles of the user of its lookup, once. -/
def load (s : RoleTraffic) (lookup : Nat) : RoleTraffic :=
  match s.flights.get? lookup, s.loaded.get? lookup with
  | some ticket, none =>
    { s with loaded := s.loaded.put lookup (Op.loadRoles s.world ticket.userId) }
  | _, _ => s

/-- The store is written to; the user whose roles were changed is owed from then on. -/
def write (s : RoleTraffic) (change : RoleChange) : RoleTraffic :=
  match change.write.exec s.world with
  | (.ok (some userId), world) => { s with world, owed := userId :: s.owed }
  | (_, world) => { s with world }

def step (s : RoleTraffic) : RoleMove → RoleTraffic
  | .start userId => s.atCache (.start userId)
  | .load lookup => s.load lookup
  | .finish lookup =>
    match s.loaded.get? lookup with
    | some loaded => s.atCache (.finish lookup loaded)
    | none => s
  | .fail lookup => s.atCache (.finish lookup none)
  | .cancel lookup => s.atCache (.cancel lookup)
  | .write change => s.write change
  | .forget userId =>
    if userId ∈ s.owed then
      { s.atCache (.invalidate userId) with owed := s.owed.erase userId }
    else s
  | .meanwhile now slots supply =>
    { s with world := { s.world with now := now, slots := slots, supply := supply } }

/-- The state after a list of moves. -/
def run (s : RoleTraffic) (moves : List RoleMove) : RoleTraffic := moves.foldl step s

theorem run_concat (s : RoleTraffic) (moves : List RoleMove) (move : RoleMove) :
    s.run (moves ++ [move]) = (s.run moves).step move := by
  rw [run, List.foldl_append]
  rfl

/-! ## Coherence -/

/-- The roles that the store has for a user. -/
def stored (s : RoleTraffic) (userId : Int) : List Role :=
  (s.world.store.rolesOf userId).map (·.role)

/-- What the cache has, and what current lookups are about to put there, is what the store has, but
for users who are owed. -/
structure Coherent (s : RoleTraffic) : Prop where
  sound : s.world.store.Sound
  balanced : s.traffic.Balanced
  /-- Loaders read behind the start of their lookups. -/
  loaded_lt : ∀ lookup loaded, s.loaded.get? lookup = some loaded → lookup < s.started
  snapshot : ∀ lookup ticket roles, s.flights.get? lookup = some ticket →
    s.loaded.get? lookup = some (some roles) → s.world.cache.isCurrent ticket = true →
    ticket.userId ∉ s.owed → roles = s.stored ticket.userId
  entry : ∀ entry ∈ s.world.cache.entries, entry.1 ∉ s.owed →
    entry.2.roles = (s.stored entry.1).eraseDups

theorem opened_coherent (lifetime firstSweep : Int) {w : World} (hs : w.store.Sound) :
    (opened lifetime firstSweep w).Coherent where
  sound := hs
  balanced := Traffic.opened_balanced lifetime firstSweep w.now
  loaded_lt lookup loaded h := by cases h
  snapshot lookup ticket roles h := by cases h
  entry entry hmem := by cases hmem

variable {s : RoleTraffic}

/-- The bookkeeping of the cache does not look at the time. -/
theorem Coherent.balanced_atCache (h : s.Coherent) (move : Move Int) :
    (s.atCache move).traffic.Balanced :=
  { Traffic.step_balanced h.balanced move with }

theorem Coherent.start (h : s.Coherent) (userId : Int) :
    (s.atCache (.start userId)).Coherent := by
  have hbalanced := h.balanced_atCache (.start userId)
  unfold atCache at hbalanced ⊢
  rcases s.traffic.step_start_cases userId with ⟨_, -, -, hstep⟩ | ⟨entries, hsub, hstep⟩
  · rw [hstep] at hbalanced ⊢
    exact { h with
      balanced := hbalanced
      loaded_lt := fun lookup loaded hget => Nat.lt_succ_of_lt (h.loaded_lt lookup loaded hget) }
  · rw [hstep] at hbalanced ⊢
    refine ⟨h.sound, hbalanced, ?_, ?_, ?_⟩
    · intro lookup loaded hget
      exact Nat.lt_succ_of_lt (h.loaded_lt lookup loaded hget)
    · intro lookup ticket roles hflight hloaded
      -- The new lookup has nothing loaded yet, so this is one from before.
      rcases Table.get?_put_cases hflight with ⟨rfl, -⟩ | ⟨-, hold⟩
      · exact absurd (h.loaded_lt _ _ hloaded) (Nat.lt_irrefl _)
      · exact h.snapshot lookup ticket roles hold hloaded
    · intro entry hmem
      exact h.entry entry (hsub entry hmem)

theorem Coherent.load (h : s.Coherent) (lookup : Nat) : (s.load lookup).Coherent := by
  unfold RoleTraffic.load
  split
  · rename_i ticket hflight hfirst
    refine { h with loaded_lt := ?_, snapshot := ?_ }
    · intro other loaded hget
      rcases Table.get?_put_cases hget with ⟨rfl, -⟩ | ⟨-, hold⟩
      · exact h.balanced.numbered _ _ hflight
      · exact h.loaded_lt other loaded hold
    · intro other ticket' roles hflight' hget hcurrent howed
      rcases Table.get?_put_cases hget with ⟨rfl, hroles⟩ | ⟨-, hold⟩
      · rw [hflight] at hflight'
        obtain rfl := Option.some.inj hflight'
        unfold Op.loadRoles at hroles
        split at hroles
        · exact Option.some.inj hroles
        · cases hroles
      · exact h.snapshot other ticket' roles hflight' hold hcurrent howed
  · exact h

/-- The end of a lookup. What it puts in the cache has to be what the store has. -/
theorem Coherent.finish (h : s.Coherent) {lookup : Nat} {loaded : Option (List Role)}
    (hloaded : ∀ ticket roles, s.flights.get? lookup = some ticket → loaded = some roles →
      s.world.cache.isCurrent ticket = true → ticket.userId ∉ s.owed →
      roles = s.stored ticket.userId) :
    (s.atCache (.finish lookup loaded)).Coherent := by
  have hbalanced := h.balanced_atCache (.finish lookup loaded)
  unfold atCache at hbalanced ⊢
  cases hflight : s.flights.get? lookup with
  | none =>
      have hstep : s.traffic.step (.finish lookup loaded) = (none, s.traffic) :=
        s.traffic.step_finish_none hflight loaded
      rw [hstep]
      exact h
  | some ticket =>
      have hstep : s.traffic.step (.finish lookup loaded) =
          (some (answer loaded), s.traffic.land lookup ticket loaded) :=
        s.traffic.step_finish hflight loaded
      rw [hstep] at hbalanced ⊢
      refine ⟨h.sound, hbalanced, h.loaded_lt, ?_, ?_⟩
      · intro other ticket' roles hflight' hget hcurrent howed
        have hleft : (s.traffic.land lookup ticket loaded).flights.get? other = some ticket' :=
          hflight'
        have hbefore : s.flights.get? other = some ticket' := Traffic.get?_land hleft
        refine h.snapshot other ticket' roles hbefore hget ?_ howed
        -- Its user still has a lookup in flight and so keeps the generation.
        obtain ⟨hepoch, hgeneration⟩ := isCurrent_iff.mp hcurrent
        have hsame := h.balanced.generation_land hflight loaded (Traffic.inFlight_pos hleft)
        have hsameEpoch : (s.traffic.land lookup ticket loaded).cache.epoch = s.world.cache.epoch :=
          finish_epoch ..
        exact isCurrent_iff.mpr ⟨hepoch.trans hsameEpoch, hgeneration.trans hsame⟩
      · intro entry hmem howed
        rcases mem_finish_entries hmem with hold | ⟨roles, hroles, hcurrent, rfl⟩
        · exact h.entry entry hold howed
        · have hstored := hloaded ticket roles hflight hroles hcurrent howed
          exact congrArg List.eraseDups hstored

/-- A cancelled lookup leaves behind what a failed one does. -/
theorem atCache_cancel (s : RoleTraffic) (lookup : Nat) :
    s.atCache (.cancel lookup) = s.atCache (.finish lookup none) := by
  unfold atCache
  cases hflight : s.traffic.flights.get? lookup with
  | none => rw [s.traffic.step_cancel_none hflight, s.traffic.step_finish_none hflight]
  | some ticket => rw [s.traffic.step_cancel hflight, s.traffic.step_finish hflight]

/-- A write changes the roles of the user who is owed for it, and nobody else's. -/
theorem Coherent.written (h : s.Coherent) {w : World} {owed : List Int}
    (hcache : w.cache = s.world.cache) (hsound : w.store.Sound)
    (howed : ∀ userId ∈ s.owed, userId ∈ owed)
    (hothers : ∀ userId ∉ owed, w.store.rolesOf userId = s.world.store.rolesOf userId) :
    Coherent { s with world := w, owed := owed } := by
  have hstored : ∀ userId ∉ owed,
      (w.store.rolesOf userId).map (·.role) = s.stored userId := by
    intro userId hnot
    rw [hothers userId hnot]
    rfl
  have hbalanced : Traffic.Balanced ⟨w.cache, w.now, s.started, s.flights⟩ := by
    rw [hcache]
    exact { h.balanced with }
  refine ⟨hsound, hbalanced, h.loaded_lt, ?_, ?_⟩
  · intro lookup ticket roles hflight hloaded hcurrent hnot
    dsimp only at hcurrent hnot
    rw [hcache] at hcurrent
    refine Eq.trans ?_ (hstored _ hnot).symm
    exact h.snapshot lookup ticket roles hflight hloaded hcurrent fun hmem => hnot (howed _ hmem)
  · intro entry hmem hnot
    dsimp only at hmem hnot
    rw [hcache] at hmem
    refine Eq.trans ?_ (congrArg List.eraseDups (hstored _ hnot)).symm
    exact h.entry entry hmem fun hmem => hnot (howed _ hmem)

theorem Coherent.write (h : s.Coherent) (change : RoleChange) : (s.write change).Coherent := by
  unfold RoleTraffic.write
  rcases (change.write_ends h.sound).cases with
    ⟨failure, w', hexec, hcache, hstore⟩ | ⟨_ | userId, w', hexec, hcache, hsound, hothers⟩
  · rw [hexec]
    exact h.written hcache (hstore ▸ h.sound) (fun _ hmem => hmem)
      fun userId _ => by rw [hstore]
  · rw [hexec]
    exact h.written hcache hsound (fun _ hmem => hmem)
      fun userId _ => hothers userId nofun
  · rw [hexec]
    refine h.written hcache hsound (fun _ hmem => List.mem_cons_of_mem _ hmem)
      fun other hnot => hothers other fun heq => hnot ?_
    rw [Option.some.inj heq]
    exact List.mem_cons_self

/-- A user who is forgotten has no entry, and no ticket of the user's from before is current. -/
theorem Coherent.forget (h : s.Coherent) (userId : Int) :
    Coherent { s.atCache (.invalidate userId) with owed := s.owed.erase userId } := by
  have hbalanced := h.balanced_atCache (.invalidate userId)
  have howed : ∀ {other}, other ≠ userId → other ∉ s.owed.erase userId → other ∉ s.owed :=
    fun hne hnot hmem => hnot ((List.mem_erase_of_ne hne).mpr hmem)
  refine ⟨h.sound, hbalanced, h.loaded_lt, ?_, ?_⟩
  · intro lookup ticket roles hflight hloaded hcurrent hnot
    have hbefore : s.flights.get? lookup = some ticket := hflight
    have hgeneration : (s.world.cache.invalidate userId).generation ticket.userId =
        s.world.cache.generation ticket.userId + if userId = ticket.userId then 1 else 0 :=
      h.balanced.generation_invalidate userId _ (Traffic.inFlight_pos hbefore)
    have hle : ticket.generation ≤ s.world.cache.generation ticket.userId :=
      h.balanced.generation_le _ _ hbefore
    obtain ⟨hepoch, hsame⟩ := isCurrent_iff.mp hcurrent
    have hsame : ticket.generation = (s.world.cache.invalidate userId).generation ticket.userId :=
      hsame
    rw [hgeneration] at hsame
    by_cases huser : userId = ticket.userId
    · rw [if_pos huser] at hsame
      omega
    · rw [if_neg huser] at hsame
      exact h.snapshot lookup ticket roles hbefore hloaded (isCurrent_iff.mpr ⟨hepoch, hsame⟩)
        (howed (Ne.symm huser) hnot)
  · intro entry hmem hnot
    obtain ⟨hold, hne⟩ := Table.mem_erase.mp
      (show entry ∈ s.world.cache.entries.erase userId from hmem)
    exact h.entry entry hold (howed hne hnot)

/-- **Step.** Whatever comes next, current snapshots and entries stay as the store has it. -/
theorem Coherent.step (h : s.Coherent) (move : RoleMove) : (s.step move).Coherent := by
  cases move with
  | start userId => exact h.start userId
  | load lookup => exact h.load lookup
  | finish lookup =>
      unfold RoleTraffic.step
      dsimp only
      split
      · rename_i loaded hloaded
        refine h.finish fun ticket roles hflight hroles hcurrent howed => ?_
        rw [hroles] at hloaded
        exact h.snapshot lookup ticket roles hflight hloaded hcurrent howed
      · exact h
  | fail lookup => exact h.finish fun _ _ _ hroles => nomatch hroles
  | cancel lookup =>
      unfold RoleTraffic.step
      dsimp only
      rw [atCache_cancel]
      exact h.finish fun _ _ _ hroles => nomatch hroles
  | write change => exact h.write change
  | forget userId =>
      unfold RoleTraffic.step
      dsimp only
      split
      · exact h.forget userId
      · exact h
  | meanwhile now slots supply => exact { h with balanced := { h.balanced with } }

/-- A lookup that nothing comes between is the one that services make. -/
theorem Coherent.run_lookup (h : s.Coherent) (userId : Int) :
    (s.run [.start userId, .load s.started, .finish s.started]).world
      = ((Op.rolesOf userId).exec s.world).2 := by
  have hloaded : s.loaded.get? s.started = none := by
    refine Option.eq_none_iff_forall_ne_some.mpr fun loaded hget => ?_
    exact Nat.lt_irrefl _ (h.loaded_lt _ _ hget)
  have hflight : s.flights.get? s.started = none := by
    refine Option.eq_none_iff_forall_ne_some.mpr fun ticket hget => ?_
    exact Nat.lt_irrefl _ (h.balanced.numbered _ _ hget)
  have hrun : s.run [.start userId, .load s.started, .finish s.started] =
      (((s.atCache (.start userId)).load s.started).step (.finish s.started)) := rfl
  have hexec : (Op.rolesOf userId).exec s.world = Op.rolesOf userId s.world := rfl
  rw [hrun, hexec, Op.rolesOf]
  rcases s.world.cache.begin_cases s.world.now userId with
    ⟨entry, -, -, hbegin⟩ | ⟨entries, -, hbegin⟩
  · have hstart : s.atCache (.start userId) = { s with started := s.started + 1 } := by
      simp only [atCache, traffic, Traffic.step, hbegin]
    have hload : RoleTraffic.load { s with started := s.started + 1 } s.started =
        { s with started := s.started + 1 } := by
      simp only [RoleTraffic.load, hflight]
    rw [hstart, hload, hbegin]
    simp only [RoleTraffic.step, hloaded]
  · generalize ({ s.world.cache with
      entries := entries
      pending := s.world.cache.pending.put userId (s.world.cache.pendingCount userId + 1) }
      : RoleCache Int) = cache at hbegin
    generalize hticket : (⟨userId, s.world.cache.epoch, s.world.cache.generation userId⟩ : Ticket)
      = ticket at hbegin
    have huser : ticket.userId = userId := hticket ▸ rfl
    let waiting : RoleTraffic := { s with
      world := { s.world with cache := cache }
      started := s.started + 1
      flights := s.flights.put s.started ticket }
    let read := Op.loadRoles s.world userId
    have hwaiting : waiting.flights.get? s.started = some ticket := Table.get?_put_self ..
    have hstart : s.atCache (.start userId) = waiting := by
      simp only [atCache, traffic, Traffic.step, hbegin, waiting]
    have hload : waiting.load s.started =
        { waiting with loaded := s.loaded.put s.started read } := by
      have hfirst : waiting.loaded.get? s.started = none := hloaded
      simp only [RoleTraffic.load, hwaiting, hfirst, huser]
      rfl
    have hread : (s.loaded.put s.started read).get? s.started = some read := Table.get?_put_self ..
    rw [hstart, hload, hbegin]
    simp only [RoleTraffic.step, hread, atCache, traffic, Traffic.step, hwaiting]
    rfl

/-- An operation that nothing comes between is the one of the service. -/
theorem run_change (s : RoleTraffic) (change : RoleChange) {userId : Int} {w : World}
    (hwrite : change.write.exec s.world = (.ok (some userId), w)) :
    (s.run [.write change, .forget userId]).world = (change.op.exec s.world).2 := by
  have hrun : s.run [.write change, .forget userId] =
      (s.write change).step (.forget userId) := rfl
  have howed : s.write change = { s with world := w, owed := userId :: s.owed } := by
    rw [RoleTraffic.write, hwrite]
  rw [hrun, howed, change.op_eq, Op.exec_bind, hwrite, RoleTraffic.step,
    if_pos List.mem_cons_self]
  rfl

/-- **Run.** From a new cache on, every entry of a user who is not owed is as the store has it. -/
theorem run_coherent (lifetime firstSweep : Int) {w : World} (hs : w.store.Sound)
    (moves : List RoleMove) : ((opened lifetime firstSweep w).run moves).Coherent := by
  induction moves using List.reverseRecOn with
  | nil => exact opened_coherent lifetime firstSweep hs
  | append_singleton moves move ih =>
      rw [run_concat]
      exact ih.step move

end RoleTraffic

/-- **The cache has what the store has.** However lookups and changes of roles run side by side from
a new cache on, an entry of a user who is not yet to be forgotten behind a write has the roles that
the store has for the user, each once and in their order. Between the requests and calls of a
session, this holds of all entries. -/
theorem cache_at_rest :
    (∀ start : World, start.Reachable → ∀ (lifetime firstSweep : Int) (moves : List RoleMove),
        let s := (RoleTraffic.opened lifetime firstSweep start).run moves
        ∀ userId cached, s.world.cache.entries.get? userId = some cached → userId ∉ s.owed →
          cached.roles = ((s.world.store.rolesOf userId).map (·.role)).eraseDups)
      ∧ ∀ w : World, w.Reachable → ∀ userId cached, w.cache.entries.get? userId = some cached →
        cached.roles = ((w.store.rolesOf userId).map (·.role)).eraseDups := by
  constructor
  · intro start hstart lifetime firstSweep moves s userId cached hget howed
    have hcoherent := RoleTraffic.run_coherent lifetime firstSweep hstart.settled.sound moves
    exact hcoherent.entry (userId, cached) (Table.mem_of_get? hget) howed
  · intro w hw userId cached hget
    exact hw.settled.agrees (userId, cached) (Table.mem_of_get? hget)

/-- A lookup reads the roles before another one is granted, and finishes before the user is
forgotten; the next lookup has both roles. -/
theorem cache_at_rest_of_race :
    let start : World := ⟨0, .empty, .empty 600 0, ⟨1, 0, true⟩, .start [], []⟩
    let moves : List RoleMove :=
      [.write (.grant ⟨1, .user⟩), .forget 1, .start 1, .load 0,
        .write (.grant ⟨1, .superuser⟩), .finish 0, .forget 1, .start 1, .load 1, .finish 1]
    ∃ cached, ((RoleTraffic.opened 600 0 start).run moves).world.cache.entries.get? 1 = some cached
      ∧ cached.roles = [.user, .superuser] := by
  intro start moves
  have hstart : start.Reachable := World.Reachable.initial ⟨rfl, rfl⟩
  have hcached : (((RoleTraffic.opened 600 0 start).run moves).world.cache.entries.get? 1).isSome
      = true := by decide +kernel
  have howed : (1 : Int) ∉ ((RoleTraffic.opened 600 0 start).run moves).owed := by
    decide +kernel
  obtain ⟨cached, hget⟩ := Option.isSome_iff_exists.mp hcached
  have hroles := cache_at_rest.1 start hstart 600 0 moves 1 cached hget howed
  refine ⟨cached, hget, hroles.trans ?_⟩
  decide +kernel

end Accounts
