import Mathlib.Data.Int.Order.Basic
import Accounts.Proofs.RoleCache.Traffic

/-!
# Answers of the roles cache are fresh

A lookup is answered by what its own loader returned, or by what the loader of an earlier
lookup of the same user returned (`get_fresh`). In the second case the earlier lookup
succeeded, finished less than a lifetime ago, and started behind every invalidation of the
user and every clearing of the cache: a slow lookup never puts back what an invalidation was
meant to remove.

The proof carries two facts along a run (`Fresh`). Every entry comes from such a lookup. And a
waiting lookup whose ticket still carries the present epoch and generation has seen no
invalidation since it started; this is where generations may be dropped with the last lookup
of a user, because then no ticket is left that could be mistaken for a current one
(`Balanced.generation_land`).
-/

namespace Accounts.RoleCache

/-- The move makes the cache forget what it knows of a user. -/
def Move.Forgets {τ : Type} (userId : Int) : Move τ → Prop
  | .invalidate other => other = userId
  | .clear => True
  | _ => False

namespace Traffic

variable {τ : Type} [Add τ] [LinearOrder τ]

/-! ## Loads -/

/-- A lookup of a user that, within a run from `s`, asked its loader and was answered. -/
structure Load (s : Traffic τ) (moves : List (Move τ)) (userId : Int) where
  before : List (Move τ)
  during : List (Move τ)
  after : List (Move τ)
  loaded : List Role
  split : moves = before ++ .start userId ::
    (during ++ .finish (s.run before).started (some loaded) :: after)
  /-- Nothing else ended the lookup, which was not answered from the cache either. -/
  waited : ((s.run (before ++ .start userId :: during)).flights.get?
    (s.run before).started).isSome

namespace Load

variable {s : Traffic τ} {moves : List (Move τ)} {userId : Int}

/-- When the lookup finished. -/
def finishedAt (load : Load s moves userId) : τ :=
  (s.run (load.before ++ .start userId :: load.during)).now

/-- The user was not forgotten since the lookup started. -/
def Unforgotten (load : Load s moves userId) : Prop :=
  ∀ move ∈ load.during ++ load.after, ¬move.Forgets userId

/-- The same load in a longer run. -/
def extend (load : Load s moves userId) (move : Move τ) : Load s (moves ++ [move]) userId where
  before := load.before
  during := load.during
  after := load.after ++ [move]
  loaded := load.loaded
  split := by
    conv => lhs; rw [load.split]
    simp only [List.append_assoc, List.cons_append]
  waited := load.waited

theorem Unforgotten.extend {load : Load s moves userId} (h : load.Unforgotten) {move : Move τ}
    (hmove : ¬move.Forgets userId) : (load.extend move).Unforgotten := by
  intro other hother
  simp only [Load.extend, ← List.append_assoc] at hother
  rcases List.mem_append.mp hother with hold | hnew
  · exact h other hold
  · exact List.mem_singleton.mp hnew ▸ hmove

/-- Whatever made the cache forget the user came before the lookup started. -/
theorem Unforgotten.started_behind {load : Load s moves userId} (h : load.Unforgotten)
    {earlier later : List (Move τ)} {move : Move τ} (hsplit : moves = earlier ++ move :: later)
    (hmove : move.Forgets userId) : earlier.length < load.before.length := by
  by_contra hlt
  have hlen : load.before.length ≤ earlier.length := Nat.le_of_not_lt hlt
  have hmem : move ∈ Move.start userId ::
      (load.during ++ Move.finish (s.run load.before).started (some load.loaded)
        :: load.after) := by
    have hdrop := congrArg (List.drop load.before.length) (load.split.symm.trans hsplit)
    rw [List.drop_left, List.drop_append_of_le_length hlen] at hdrop
    rw [hdrop]
    exact List.mem_append_right _ (List.mem_cons_self ..)
  rcases List.mem_cons.mp hmem with rfl | hmem
  · exact hmove
  · rcases List.mem_append.mp hmem with hin | hin
    · exact h move (List.mem_append_left _ hin) hmove
    · rcases List.mem_cons.mp hin with rfl | hin
      · exact hmove
      · exact h move (List.mem_append_right _ hin) hmove

end Load

/-! ## The invariant -/

/-- An entry holds what a load of its user returned, until a lifetime after the load, and the
user was not forgotten since. -/
def FreshEntry (s : Traffic τ) (moves : List (Move τ)) (entry : Int × CachedRoles τ) : Prop :=
  ∃ load : Load s moves entry.1, load.Unforgotten ∧ load.finishedAt ≤ (s.run moves).now
    ∧ entry.2 = ⟨load.loaded.eraseDups, load.finishedAt + s.cache.lifetime⟩

/-- A waiting lookup started where its number says, and if its ticket is current, its user was
not forgotten since. -/
def FreshFlight (s : Traffic τ) (moves : List (Move τ)) (lookup : Nat) (ticket : Ticket) :
    Prop :=
  ∃ before during, moves = before ++ .start ticket.userId :: during
    ∧ (s.run before).started = lookup
    ∧ ((s.run moves).cache.isCurrent ticket = true →
        ∀ move ∈ during, ¬move.Forgets ticket.userId)

/-- All that the cache knows and all that waits to be known is fresh. -/
structure Fresh (s : Traffic τ) (moves : List (Move τ)) : Prop where
  entries : ∀ entry ∈ (s.run moves).cache.entries, FreshEntry s moves entry
  flights : ∀ lookup ticket, (s.run moves).flights.get? lookup = some ticket →
    FreshFlight s moves lookup ticket

theorem FreshEntry.extend {s : Traffic τ} {moves : List (Move τ)}
    {entry : Int × CachedRoles τ} (h : FreshEntry s moves entry) {move : Move τ}
    (hmove : ¬move.Forgets entry.1) : FreshEntry s (moves ++ [move]) entry := by
  obtain ⟨load, hun, hnow, hval⟩ := h
  refine ⟨load.extend move, hun.extend hmove, le_trans hnow ?_, hval⟩
  rw [run_concat]
  exact now_le_step _ _

/-- A flight stays fresh if, with its ticket still current, its user was not forgotten. -/
theorem FreshFlight.extend {s : Traffic τ} {moves : List (Move τ)} {lookup : Nat}
    {ticket : Ticket} (h : FreshFlight s moves lookup ticket) {move : Move τ}
    (hcur : (s.run (moves ++ [move])).cache.isCurrent ticket = true →
      (s.run moves).cache.isCurrent ticket = true ∧ ¬move.Forgets ticket.userId) :
    FreshFlight s (moves ++ [move]) lookup ticket := by
  obtain ⟨before, during, hsplit, hnum, hun⟩ := h
  refine ⟨before, during ++ [move], by rw [hsplit]; simp, hnum, fun hnow other hother => ?_⟩
  obtain ⟨hthen, hmove⟩ := hcur hnow
  rcases List.mem_append.mp hother with hold | hnew
  · exact hun hthen other hold
  · exact List.mem_singleton.mp hnew ▸ hmove

theorem opened_fresh (lifetime firstSweep now : τ) :
    Fresh (opened lifetime firstSweep now) [] where
  entries := by intro entry h; cases h
  flights := by intro lookup ticket h; cases h

/-- The end of a lookup keeps everything fresh: what it stores comes from a load of its own,
and the tickets of the others stay as current as they were. -/
theorem Fresh.land {s : Traffic τ} {moves : List (Move τ)} (hs : Fresh s moves)
    (hbal : (s.run moves).Balanced) {move : Move τ} {lookup : Nat} {ticket : Ticket}
    {loaded : Option (List Role)}
    (hget : (s.run moves).flights.get? lookup = some ticket)
    (hstep : ((s.run moves).step move).2 = (s.run moves).land lookup ticket loaded)
    (hmove : ∀ userId, ¬move.Forgets userId)
    (hload : ∀ roles, loaded = some roles → move = .finish lookup (some roles)) :
    Fresh s (moves ++ [move]) where
  entries entry hentry := by
    rw [run_concat, hstep] at hentry
    rcases mem_finish_entries hentry with hold | ⟨roles, hroles, hcur, rfl⟩
    · exact (hs.entries entry hold).extend (hmove _)
    · obtain ⟨before, during, hsplit, hnum, hun⟩ := hs.flights lookup ticket hget
      subst hnum
      have hmv := hload roles hroles
      refine ⟨⟨before, during, [], roles, by rw [hsplit, hmv]; simp, ?_⟩, ?_, ?_, ?_⟩
      · rw [← hsplit, hget]; rfl
      · intro other hother
        rw [List.append_nil] at hother
        exact hun hcur other hother
      · rw [run_concat]
        show (s.run (before ++ .start ticket.userId :: during)).now ≤ _
        rw [← hsplit]
        exact now_le_step _ _
      · simp only [Load.finishedAt, ← hsplit, lifetime_run]
  flights other ticket' hother := by
    rw [run_concat, hstep] at hother
    refine (hs.flights other ticket' (get?_land hother)).extend fun hcur => ⟨?_, hmove _⟩
    rw [run_concat, hstep, isCurrent_iff,
      hbal.generation_land hget loaded (inFlight_pos hother)] at hcur
    exact isCurrent_iff.mpr ⟨hcur.1.trans (finish_epoch ..), hcur.2⟩

theorem Fresh.start {s : Traffic τ} {moves : List (Move τ)} (hs : Fresh s moves)
    (userId : Int) : Fresh s (moves ++ [.start userId]) := by
  have hkeep : ∀ other : Int, ¬(Move.start userId : Move τ).Forgets other := fun _ h => h
  have hrun := s.run_concat moves (.start userId)
  rcases (s.run moves).step_start_cases userId with ⟨_, -, -, hstep⟩ | ⟨entries, hsub, hstep⟩
  · rw [hstep] at hrun
    exact
      { entries := fun entry hentry => by
          rw [hrun] at hentry
          exact (hs.entries entry hentry).extend (hkeep _)
        flights := fun lookup ticket hget => by
          rw [hrun] at hget
          refine (hs.flights lookup ticket hget).extend fun hcur => ⟨?_, hkeep _⟩
          rw [hrun] at hcur
          exact hcur }
  · rw [hstep] at hrun
    refine ⟨fun entry hentry => ?_, fun lookup ticket hget => ?_⟩
    · rw [hrun] at hentry
      exact (hs.entries entry (hsub entry hentry)).extend (hkeep _)
    · rw [hrun, Table.get?_put] at hget
      split at hget
      · rename_i hnum
        obtain rfl := Option.some.inj hget
        exact ⟨moves, [], rfl, hnum, fun _ _ h => absurd h List.not_mem_nil⟩
      · refine (hs.flights lookup ticket hget).extend fun hcur => ⟨?_, hkeep _⟩
        rw [hrun] at hcur
        exact hcur

theorem Fresh.invalidate {s : Traffic τ} {moves : List (Move τ)} (hs : Fresh s moves)
    (hbal : (s.run moves).Balanced) (userId : Int) :
    Fresh s (moves ++ [.invalidate userId]) where
  entries entry hentry := by
    rw [run_concat] at hentry
    obtain ⟨hold, hne⟩ := Table.mem_erase.mp hentry
    exact (hs.entries entry hold).extend fun h => hne h.symm
  flights lookup ticket hget := by
    rw [run_concat] at hget
    refine (hs.flights lookup ticket hget).extend fun hcur => ?_
    have hgen := hbal.generation_invalidate userId _ (inFlight_pos hget)
    have hle := hbal.generation_le lookup ticket hget
    rw [run_concat, isCurrent_iff] at hcur
    obtain ⟨hepoch, hcur⟩ := hcur
    replace hcur := hcur.trans hgen
    by_cases huser : userId = ticket.userId
    · rw [if_pos huser] at hcur
      omega
    · rw [if_neg huser] at hcur
      exact ⟨isCurrent_iff.mpr ⟨hepoch, hcur⟩, huser⟩

theorem Fresh.clear {s : Traffic τ} {moves : List (Move τ)} (hs : Fresh s moves)
    (hbal : (s.run moves).Balanced) : Fresh s (moves ++ [.clear]) where
  entries entry hentry := by
    rw [run_concat] at hentry
    exact absurd hentry List.not_mem_nil
  flights lookup ticket hget := by
    rw [run_concat] at hget
    refine (hs.flights lookup ticket hget).extend fun hcur => ?_
    rw [run_concat, isCurrent_iff] at hcur
    have hepoch : ticket.epoch = (s.run moves).cache.epoch + 1 := hcur.1
    have hle := hbal.epoch_le lookup ticket hget
    omega

theorem Fresh.step {s : Traffic τ} {moves : List (Move τ)} (hs : Fresh s moves)
    (hbal : (s.run moves).Balanced) (move : Move τ) : Fresh s (moves ++ [move]) := by
  have hidle : ((s.run moves).step move).2 = s.run moves → (∀ userId, ¬move.Forgets userId) →
      Fresh s (moves ++ [move]) := fun hstep hmove =>
    { entries := fun entry hentry => by
        rw [run_concat, hstep] at hentry
        exact (hs.entries entry hentry).extend (hmove _)
      flights := fun lookup ticket hget => by
        rw [run_concat, hstep] at hget
        refine (hs.flights lookup ticket hget).extend fun hcur => ⟨?_, hmove _⟩
        rw [run_concat, hstep] at hcur
        exact hcur }
  cases move with
  | start userId => exact hs.start userId
  | finish lookup loaded =>
      cases h : (s.run moves).flights.get? lookup with
      | none => exact hidle (by rw [step_finish_none _ h]) fun _ h => h
      | some ticket =>
          exact hs.land hbal h (by rw [step_finish _ h]) (fun _ h => h)
            (fun roles hroles => by rw [hroles])
  | cancel lookup =>
      cases h : (s.run moves).flights.get? lookup with
      | none => exact hidle (by rw [step_cancel_none _ h]) fun _ h => h
      | some ticket =>
          exact hs.land hbal h (by rw [step_cancel _ h]) (fun _ h => h)
            (fun roles hroles => by cases hroles)
  | invalidate userId => exact hs.invalidate hbal userId
  | clear => exact hs.clear hbal
  | advance time =>
      refine ⟨fun entry hentry => ?_, fun lookup ticket hget => ?_⟩
      · rw [run_concat] at hentry
        exact (hs.entries entry hentry).extend fun h => h
      · rw [run_concat] at hget
        refine (hs.flights lookup ticket hget).extend fun hcur => ⟨?_, fun h => h⟩
        rw [run_concat] at hcur
        exact hcur

theorem run_fresh (lifetime firstSweep now : τ) (moves : List (Move τ)) :
    Fresh (opened lifetime firstSweep now) moves := by
  induction moves using List.reverseRecOn with
  | nil => exact opened_fresh lifetime firstSweep now
  | append_singleton moves move ih => exact ih.step (run_balanced ..) move

/-! ## What lookups answer -/

/-- **Freshness.** In every run, whatever a lookup answers is what its own loader returned
once it ended, no roles if the loader failed; or else it is the result of a load of the same
user that ended less than a lifetime before, and behind whose start the user was not
forgotten. And nothing but the results of such loads is ever in the cache: what failed or was
cancelled left nothing there. -/
theorem get_fresh (lifetime firstSweep start : τ) (moves : List (Move τ)) :
    let s := opened lifetime firstSweep start
    (∀ move roles, ((s.run moves).step move).1 = some roles →
      ∃ userId,
        (∃ before during loaded, moves = before ++ .start userId :: during
          ∧ move = .finish (s.run before).started loaded
          ∧ roles = (loaded.getD []).eraseDups)
        ∨ move = .start userId ∧ ∃ load : Load s moves userId,
            roles = load.loaded.eraseDups
            ∧ load.finishedAt ≤ (s.run moves).now
            ∧ (s.run moves).now < load.finishedAt + lifetime
            ∧ load.Unforgotten
            ∧ ∀ earlier forget later, moves = earlier ++ forget :: later →
                forget.Forgets userId → earlier.length < load.before.length)
    ∧ ∀ entry ∈ (s.run moves).cache.entries, FreshEntry s moves entry := by
  intro s
  have hfresh := run_fresh lifetime firstSweep start moves
  refine ⟨fun move roles hanswer => ?_, hfresh.entries⟩
  cases move with
  | start userId =>
      refine ⟨userId, Or.inr ⟨rfl, ?_⟩⟩
      rcases (s.run moves).step_start_cases userId with
        ⟨entry, hget, hlive, hstep⟩ | ⟨_, -, hstep⟩ <;> rw [hstep] at hanswer
      · obtain ⟨load, hun, hnow, hval⟩ := hfresh.entries _ (Table.mem_of_get? hget)
        obtain rfl := Option.some.inj hanswer
        rw [show entry = _ from hval] at hlive ⊢
        exact ⟨load, rfl, hnow, hlive, hun, fun _ _ _ hsplit => hun.started_behind hsplit⟩
      · cases hanswer
  | finish lookup loaded =>
      cases h : (s.run moves).flights.get? lookup with
      | none => rw [step_finish_none _ h] at hanswer; cases hanswer
      | some ticket =>
          rw [step_finish _ h] at hanswer
          obtain ⟨before, during, hsplit, hnum, -⟩ := hfresh.flights lookup ticket h
          exact ⟨ticket.userId, Or.inl ⟨before, during, loaded, hsplit, by rw [hnum],
            (Option.some.inj hanswer).symm⟩⟩
  | cancel lookup =>
      cases h : (s.run moves).flights.get? lookup with
      | none => rw [step_cancel_none _ h] at hanswer; cases hanswer
      | some ticket => rw [step_cancel _ h] at hanswer; cases hanswer
  | invalidate userId => cases hanswer
  | clear => cases hanswer
  | advance time => cases hanswer

/-- Two lookups of user 1 race with an invalidation; the one that started behind it is what a
third lookup is answered with, one tick before the lifetime is over. -/
theorem get_fresh_of_race :
    let moves : List (Move Int) :=
      [.start 1, .invalidate 1, .start 1, .finish 0 (some [.superuser]),
        .finish 1 (some [.user, .user]), .advance 599]
    let s := opened (600 : Int) 0 0
    ((s.run moves).step (.start 1)).1 = some [.user]
    ∧ ∃ load : Load s moves 1, [Role.user] = load.loaded.eraseDups ∧ 1 < load.before.length := by
  intro moves s
  have hanswer : ((s.run moves).step (.start 1)).1 = some [.user] := by decide
  refine ⟨hanswer, ?_⟩
  obtain ⟨userId, ⟨_, _, _, -, hmove, -⟩ | ⟨hmove, load, hroles, -, -, -, hbehind⟩⟩ :=
    (get_fresh (600 : Int) 0 0 moves).1 (.start 1) [.user] hanswer
  · cases hmove
  · cases hmove
    exact ⟨load, hroles, hbehind [.start 1] (.invalidate 1) _ rfl rfl⟩

end Traffic

end Accounts.RoleCache
