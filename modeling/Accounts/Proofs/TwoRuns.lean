import Accounts.Proofs.Service.RoleChange

/-!
# Two runs of an operation

The same operation is run in two worlds that differ in nothing but what their caches of roles hold.
`op.Relates allowed pre post` says of such a pair of runs that they stay together: from worlds that
`pre` relates, they come to the same answer, in worlds that `post` relates, or to the same failure,
which is one that `allowed` tells of. There is one rule for each way of building operations. The
caches meet the operation in one place only, where the rights of the caller are found out
(`relates_require`); whatever ignores the cache is no different in the two runs
(`relates_of_ignoresCache`).

The rights of the caller come out alike if both worlds can find out the roles: by a slot to read
them through, or by an entry of the cache that has not expired (`World.Abreast`).
-/

namespace Accounts

/-! ## Looking roles up -/

namespace RoleCache

variable {cache : RoleCache Int} {now : Int} {userId : Int}

/-- A lookup that nothing came between stores what it read. -/
theorem finish_get? {ticket : Ticket} {roles : List Role}
    (hcurrent : cache.isCurrent ticket = true) (hlife : 0 < cache.lifetime) :
    (cache.finish now ticket (some roles)).entries.get? ticket.userId
      = some ⟨roles.eraseDups, now + cache.lifetime⟩ := by
  unfold finish record
  dsimp only
  rw [if_pos hcurrent]
  unfold sweep
  split
  · rw [(release_frame _ _).2.2]
    exact Table.get?_put_self ..
  · dsimp only
    rw [(release_frame _ _).2.2]
    refine Table.get?_filter_of_pos (Table.get?_put_self ..) ?_
    exact decide_eq_true (Int.lt_add_of_pos_right now hlife)

end RoleCache

namespace World

/-- The cache answers for a user without the store. -/
def Holds (w : World) (userId : Int) : Prop :=
  ∃ entry, w.cache.entries.get? userId = some entry ∧ w.now < entry.expiresAt

/-- So many slots can be had at once. -/
def HasSlots (w : World) (n : Nat) : Prop :=
  w.slots.patient = true ∧ w.slots.inUse + n ≤ w.slots.size

variable {w : World}

theorem isFree_iff : w.slots.isFree = true ↔ w.HasSlots 1 := by
  simp only [Slots.isFree, HasSlots, Bool.and_eq_true, decide_eq_true_eq, Nat.lt_iff_add_one_le]

/-- The roles of a caller can be found out. -/
def CanRead (w : World) (caller : Caller) : Prop :=
  ∀ userId, caller.authority = .user userId → w.slots.isFree = true ∨ w.Holds userId

end World

namespace Op

variable {w : World} {s : Store}

/-- Where the roles of a user can be found out, they are the user's roles in the store. They are
held for the time that the cache keeps entries. -/
theorem rolesOf_exec (hw : w.At w.now s) {userId : Int}
    (hread : w.slots.isFree = true ∨ w.Holds userId) :
    ∃ cache, (rolesOf userId).exec w = (.ok (s.held (.user userId)).eraseDups, { w with cache })
      ∧ cache.Agrees s ∧ cache.lifetime = w.cache.lifetime
      ∧ (w.Holds userId ∨ 0 < w.cache.lifetime → World.Holds { w with cache } userId) := by
  have hexec : (rolesOf userId).exec w = rolesOf userId w := rfl
  rw [hexec, rolesOf]
  rcases w.cache.begin_cases w.now userId with
    ⟨entry, hget, hlive, hbegin⟩ | ⟨entries, hsub, hbegin⟩
  · rw [hbegin]
    have hroles := hw.agrees _ (Table.mem_of_get? hget)
    exact ⟨w.cache, by rw [← hroles], hw.agrees, rfl, fun _ => ⟨entry, hget, hlive⟩⟩
  · have hmissing : ¬w.Holds userId := by
      rintro ⟨entry, hget, hlive⟩
      unfold RoleCache.begin at hbegin
      rw [hget] at hbegin
      dsimp only at hbegin
      rw [if_pos hlive] at hbegin
      cases (Prod.mk.inj hbegin).1
    have hloaded : loadRoles w userId = some (s.held (.user userId)) := by
      rw [loadRoles, if_pos (hread.resolve_right hmissing), hw.store]
      rfl
    rw [hbegin]
    dsimp only
    rw [hloaded]
    refine ⟨_, rfl, fun entry hmem => ?_, RoleCache.finish_lifetime _ _ _ _, fun hholds => ?_⟩
    · rcases RoleCache.mem_finish_entries hmem with hold | ⟨roles, hroles, -, rfl⟩
      · exact hw.agrees entry (hsub entry hold)
      · rw [Option.some.inj hroles]
    · have hlife := hholds.resolve_left hmissing
      exact ⟨_, RoleCache.finish_get? (RoleCache.isCurrent_iff.mpr ⟨rfl, rfl⟩) hlife,
        Int.lt_add_of_pos_right _ hlife⟩

/-- With a slot, a read answers what is stored. -/
theorem readBack_exec {α : Type} (hw : w.At w.now s) (hfree : w.slots.isFree = true)
    (f : Store → α) : (withSlot (read f)).exec w = (.ok (f s), w) := by
  have hexec : (withSlot (read f)).exec w = withSlot (read f) w := rfl
  rw [hexec, withSlot, if_pos hfree, ← hw.store]
  rfl

/-- Where the roles of the caller can be found out, a right is refused exactly where the store does
not grant it. -/
theorem require_exec (hw : w.At w.now s) {caller : Caller} (hread : w.CanRead caller)
    (resource : Resource) (action : Action) (targets : List Target) :
    ∃ cache, ((require caller resource action targets).exec w = (.ok (), { w with cache })
          ∧ s.Permits caller resource action targets
        ∨ (require caller resource action targets).exec w
            = (.error (.service (.denied action resource)), { w with cache })
          ∧ ¬s.Permits caller resource action targets)
      ∧ cache.Agrees s ∧ cache.lifetime = w.cache.lifetime
      ∧ ∀ userId, caller.authority = .user userId → w.Holds userId ∨ 0 < w.cache.lifetime →
        World.Holds { w with cache } userId := by
  unfold require can Store.Permits
  cases hauthority : caller.authority with
  | system =>
      exact ⟨w.cache, Or.inl ⟨rfl, rfl⟩, hw.agrees, rfl, fun _ h => nomatch h⟩
  | nobody =>
      exact ⟨w.cache, Or.inr ⟨rfl, Bool.false_ne_true⟩, hw.agrees, rfl, fun _ h => nomatch h⟩
  | user userId =>
      obtain ⟨cache, hexec, hagrees, hlifetime, hholds⟩ := rolesOf_exec hw (hread userId hauthority)
      refine ⟨cache, ?_, hagrees, hlifetime, fun other hother => ?_⟩
      · dsimp only [Authority.permits]
        rw [bind_assoc, exec_bind, hexec]
        dsimp only
        rw [pure_bind, PermissionTable.permits_eraseDups]
        cases PermissionTable.application.permits (s.held (.user userId)) userId resource action
          targets with
        | true => exact Or.inl ⟨rfl, rfl⟩
        | false => exact Or.inr ⟨rfl, Bool.false_ne_true⟩
      · obtain rfl : userId = other := by cases hother; rfl
        exact hholds

end Op

/-! ## Pairs of worlds -/

namespace World

/-- Two worlds that differ in what their caches hold, at most. -/
def SameButCache (w w' : World) : Prop := ∃ cache, w' = { w with cache }

/-- Two worlds that stand side by side: they differ in their caches at most, both caches agree with
the store, and both can find out the roles of the caller, even while all but one of `n` slots are
held. -/
structure Abreast (s : Store) (caller : Caller) (life : Int) (n : Nat) (w w' : World) : Prop where
  same : w.SameButCache w'
  store : w.store = s
  agrees : w.cache.Agrees s
  agrees' : w'.cache.Agrees s
  lifetime : w.cache.lifetime = life
  lifetime' : w'.cache.lifetime = life
  readable : ∀ userId, caller.authority = .user userId →
    w.HasSlots n ∨ w.Holds userId ∧ w'.Holds userId

variable {w w' : World} {s : Store} {caller : Caller} {life : Int} {n : Nat}

theorem HasSlots.mono {m : Nat} (h : w.HasSlots n) (hle : m ≤ n) : w.HasSlots m :=
  ⟨h.1, Nat.le_trans (Nat.add_le_add_left hle _) h.2⟩

theorem Abreast.canRead (h : Abreast s caller life n w w') (hn : 1 ≤ n) :
    w.CanRead caller ∧ w'.CanRead caller := by
  obtain ⟨cache, rfl⟩ := h.same
  refine ⟨fun userId huser => ?_, fun userId huser => ?_⟩
  · exact (h.readable userId huser).imp (fun hslots => isFree_iff.mpr (hslots.mono hn)) (·.1)
  · exact (h.readable userId huser).imp (fun hslots => isFree_iff.mpr (hslots.mono hn)) (·.2)

end World

/-! ## Pairs of runs -/

/-- A right that is asked for. -/
structure Demand where
  resource : Resource
  action : Action
  targets : List Target

/-- A failure that refuses none but rights that the store does not grant. -/
def Failure.Justified (s : Store) (caller : Caller) (demands : List Demand) (failure : Failure) :
    Prop :=
  ∀ action resource, failure = .service (.denied action resource) →
    ∃ demand ∈ demands, demand.action = action ∧ demand.resource = resource
      ∧ ¬s.Permits caller resource action demand.targets

/-- Failures that refuse no rights are allowed. -/
def Tolerates (allowed : Failure → Prop) : Prop :=
  ∀ failure : Failure, (∀ action resource, failure ≠ .service (.denied action resource)) →
    allowed failure

theorem Tolerates.insideSlot {allowed : Failure → Prop} (h : Tolerates allowed) {failure : Failure}
    (hfailure : allowed failure) : allowed (Op.insideSlot failure) := by
  cases failure with
  | service error => exact hfailure
  | crash crash => exact h _ fun _ _ e => nomatch e

theorem tolerates_justified (s : Store) (caller : Caller) (demands : List Demand) :
    Tolerates (Failure.Justified s caller demands) :=
  fun _ hnot action resource heq => absurd heq (hnot action resource)

namespace Op

variable {α β : Type} {allowed : Failure → Prop} {pre pre' : World → World → Prop}
variable {post post' : α → World → World → Prop}

/-- Two runs of `op` stay together: both are answered alike, or both fail alike. -/
def Relates (op : Op α) (allowed : Failure → Prop) (pre : World → World → Prop)
    (post : α → World → World → Prop) : Prop :=
  ∀ w w', pre w w' →
    (∃ value w₁ w₁', op.exec w = (.ok value, w₁) ∧ op.exec w' = (.ok value, w₁')
        ∧ post value w₁ w₁')
      ∨ ∃ failure w₁ w₁', op.exec w = (.error failure, w₁) ∧ op.exec w' = (.error failure, w₁')
        ∧ allowed failure ∧ w₁.SameButCache w₁'

theorem Relates.mono {op : Op α} (h : op.Relates allowed pre post)
    (hpre : ∀ w w', pre' w w' → pre w w')
    (hpost : ∀ value w w', post value w w' → post' value w w') : op.Relates allowed pre' post' := by
  intro w w' hw
  rcases h w w' (hpre w w' hw) with ⟨value, w₁, w₁', hexec, hexec', hw₁⟩ | hfails
  · exact Or.inl ⟨value, w₁, w₁', hexec, hexec', hpost value w₁ w₁' hw₁⟩
  · exact Or.inr hfails

theorem relates_pure {value : α} (h : ∀ w w', pre w w' → post value w w') :
    (pure value : Op α).Relates allowed pre post :=
  fun w w' hw => Or.inl ⟨value, w, w', rfl, rfl, h w w' hw⟩

theorem relates_throw {failure : Failure} (h : allowed failure)
    (hsame : ∀ w w', pre w w' → w.SameButCache w') :
    (throw failure : Op α).Relates allowed pre post :=
  fun w w' hw => Or.inr ⟨failure, w, w', rfl, rfl, h, hsame w w' hw⟩

theorem Relates.bind {op : Op α} {next : α → Op β} {post' : β → World → World → Prop}
    (h : op.Relates allowed pre post)
    (hnext : ∀ value, (next value).Relates allowed (post value) post') :
    (op >>= next).Relates allowed pre post' := by
  intro w w' hw
  rw [exec_bind, exec_bind]
  rcases h w w' hw with
    ⟨value, w₁, w₁', hexec, hexec', hw₁⟩ | ⟨failure, w₁, w₁', hexec, hexec', hw₁⟩
  · rw [hexec, hexec']
    exact hnext value w₁ w₁' hw₁
  · rw [hexec, hexec']
    exact Or.inr ⟨failure, w₁, w₁', rfl, rfl, hw₁⟩

/-- What ignores the cache does not tell the worlds apart. -/
theorem relates_of_ignoresCache {op : Op α} (h : op.IgnoresCache)
    (hallowed : ∀ w, op.Ends w (fun _ _ => True) fun failure _ => allowed failure) :
    op.Relates allowed World.SameButCache (fun _ => World.SameButCache) := by
  rintro w _ ⟨cache, rfl⟩
  have hsame := h w cache
  rcases (hallowed w).cases with ⟨failure, w₁, hexec, hfailure⟩ | ⟨value, w₁, hexec, -⟩
  · rw [hexec] at hsame
    exact Or.inr ⟨failure, w₁, _, hexec, hsame, hfailure, cache, rfl⟩
  · rw [hexec] at hsame
    exact Or.inl ⟨value, w₁, _, hexec, hsame, cache, rfl⟩

/-- Forgetting roles is a matter of the cache. -/
theorem relates_invalidateRoles (userId : Int) :
    (invalidateRoles userId).Relates allowed World.SameButCache (fun _ => World.SameButCache) := by
  rintro w _ ⟨cache, rfl⟩
  exact Or.inl ⟨(), _, _, rfl, rfl, cache.invalidate userId, rfl⟩

section Abreast

variable {s : Store} {caller : Caller} {life : Int} {n : Nat}

theorem relates_read_bind {f : Store → α} {next : α → Op β} {post : β → World → World → Prop}
    (h : (next (f s)).Relates allowed (World.Abreast s caller life n) post) :
    (read f >>= next).Relates allowed (World.Abreast s caller life n) post := by
  intro w w' hw
  have hread : (read f).exec w = (.ok (f s), w) := by
    rw [← hw.store]
    rfl
  have hread' : (read f).exec w' = (.ok (f s), w') := by
    obtain ⟨cache, rfl⟩ := hw.same
    rw [← hw.store]
    rfl
  rw [exec_bind, exec_bind, hread, hread']
  exact h w w' hw

theorem relates_now_bind {next : Timestamp → Op β} {post : β → World → World → Prop}
    (h : ∀ time, (next time).Relates allowed (World.Abreast s caller life n) post) :
    (now >>= next).Relates allowed (World.Abreast s caller life n) post := by
  intro w w' hw
  have hnow' : now.exec w' = (.ok (.utc w.now), w') := by
    obtain ⟨cache, rfl⟩ := hw.same
    rfl
  rw [exec_bind, exec_bind, show now.exec w = (.ok (.utc w.now), w) from rfl, hnow']
  exact h _ w w' hw

/-- A read gives its slot back. -/
theorem relates_readBack_bind {f : Store → α} {next : α → Op β}
    {post : β → World → World → Prop} (htolerates : Tolerates allowed)
    (h : (next (f s)).Relates allowed (World.Abreast s caller life n) post) :
    (withSlot (read f) >>= next).Relates allowed (World.Abreast s caller life n) post := by
  intro w w' hw
  obtain ⟨cache, hcache⟩ := hw.same
  have hslots : w'.slots = w.slots := by rw [hcache]
  have hstore : w'.store = s := by rw [hcache, ← hw.store]
  have hexec : ∀ v : World, v.store = s → (withSlot (read f)).exec v =
      if v.slots.isFree then (.ok (f s), v) else (.error (.service (.store .noSlot)), v) := by
    rintro v rfl
    change withSlot (read f) v = _
    unfold withSlot
    split <;> rfl
  rw [exec_bind, exec_bind, hexec w hw.store, hexec w' hstore, hslots]
  by_cases hfree : w.slots.isFree = true
  · rw [if_pos hfree, if_pos hfree]
    exact h w w' hw
  · rw [if_neg hfree, if_neg hfree]
    have hnoSlot : allowed (.service (.store .noSlot)) := htolerates _ fun _ _ e => nomatch e
    exact Or.inr ⟨_, w, w', rfl, rfl, hnoSlot, hw.same⟩

/-- What needs `n` slots needs one more inside another slot. -/
theorem relates_withSlot {op : Op α} (htolerates : Tolerates allowed)
    (h : op.Relates allowed (World.Abreast s caller life n) fun _ => World.SameButCache) :
    (withSlot op).Relates allowed (World.Abreast s caller life (n + 1))
      fun _ => World.SameButCache := by
  intro w w' hw
  obtain ⟨cache, rfl⟩ := hw.same
  have hexec : ∀ v, (withSlot op).exec v = withSlot op v := fun _ => rfl
  rw [hexec, hexec]
  unfold withSlot
  dsimp only
  by_cases hfree : w.slots.isFree = true
  · rw [if_pos hfree, if_pos hfree]
    let inside : Slots := { w.slots with inUse := w.slots.inUse + 1 }
    have hinside : World.Abreast s caller life n { w with slots := inside }
        { w with cache := cache, slots := inside } := by
      refine ⟨⟨cache, rfl⟩, hw.store, hw.agrees, hw.agrees', hw.lifetime, hw.lifetime',
        fun userId huser => (hw.readable userId huser).imp (fun hslots => ⟨hslots.1, ?_⟩) id⟩
      have hroom := hslots.2
      change w.slots.inUse + 1 + n ≤ w.slots.size
      omega
    rcases h _ _ hinside with
      ⟨value, w₁, _, hrun, hrun', cache', rfl⟩ |
      ⟨failure, w₁, _, hrun, hrun', hfailure, cache', rfl⟩
    · rw [hrun, hrun']
      exact Or.inl ⟨value, _, _, rfl, rfl, cache', rfl⟩
    · rw [hrun, hrun']
      exact Or.inr ⟨_, _, _, rfl, rfl, htolerates.insideSlot hfailure, cache', rfl⟩
  · rw [if_neg hfree, if_neg hfree]
    have hnoSlot : allowed (.service (.store .noSlot)) := htolerates _ fun _ _ e => nomatch e
    exact Or.inr ⟨_, _, _, rfl, rfl, hnoSlot, cache, rfl⟩

variable {demands : List Demand}

/-- The rights of the caller come out alike. The roles are held afterwards for as long as the cache
keeps entries, so that the next check takes no slot. -/
theorem relates_require_holding (hn : 1 ≤ n) {resource : Resource} {action : Action}
    {targets : List Target} (hdemand : ⟨resource, action, targets⟩ ∈ demands) {m : Nat}
    (hm : m ≤ n ∨ 0 < life) :
    (require caller resource action targets).Relates (Failure.Justified s caller demands)
      (World.Abreast s caller life n) (fun _ => World.Abreast s caller life m) := by
  intro w w' hw
  obtain ⟨cache₀, rfl⟩ := hw.same
  obtain ⟨hread, hread'⟩ := hw.canRead hn
  obtain ⟨cache, hends, hagrees, hlifetime, hholds⟩ :=
    require_exec ⟨rfl, hw.store, hw.agrees⟩ hread resource action targets
  obtain ⟨cache', hends', hagrees', hlifetime', hholds'⟩ :=
    require_exec (w := { w with cache := cache₀ }) ⟨rfl, hw.store, hw.agrees'⟩ hread' resource
      action targets
  have habreast : World.Abreast s caller life m { w with cache := cache }
      { w with cache := cache' } := by
    refine ⟨⟨cache', rfl⟩, hw.store, hagrees, hagrees', hlifetime.trans hw.lifetime,
      hlifetime'.trans hw.lifetime', fun userId huser => ?_⟩
    have hboth : w.Holds userId ∧ World.Holds { w with cache := cache₀ } userId ∨ 0 < life →
        World.Holds { w with cache := cache } userId
          ∧ World.Holds { w with cache := cache' } userId := by
      rintro (⟨hold, hold'⟩ | hlife)
      · exact ⟨hholds userId huser (Or.inl hold), hholds' userId huser (Or.inl hold')⟩
      · exact ⟨hholds userId huser (Or.inr (hw.lifetime ▸ hlife)),
          hholds' userId huser (Or.inr (hw.lifetime' ▸ hlife))⟩
    rcases hm with hle | hlife
    · rcases hw.readable userId huser with hslots | hold
      · exact Or.inl (hslots.mono hle)
      · exact Or.inr (hboth (Or.inl hold))
    · exact Or.inr (hboth (Or.inr hlife))
  rcases hends with ⟨hexec, hpermits⟩ | ⟨hexec, hdenied⟩
  · rcases hends' with ⟨hexec', -⟩ | ⟨-, hdenied⟩
    · exact Or.inl ⟨(), _, _, hexec, hexec', habreast⟩
    · exact absurd hpermits hdenied
  · rcases hends' with ⟨-, hpermits⟩ | ⟨hexec', -⟩
    · exact absurd hpermits hdenied
    · refine Or.inr ⟨_, _, _, hexec, hexec', fun _ _ heq => ?_, habreast.same⟩
      cases heq
      exact ⟨_, hdemand, rfl, rfl, hdenied⟩

theorem relates_require (hn : 1 ≤ n) {resource : Resource} {action : Action}
    {targets : List Target} (hdemand : ⟨resource, action, targets⟩ ∈ demands) :
    (require caller resource action targets).Relates (Failure.Justified s caller demands)
      (World.Abreast s caller life n) (fun _ => World.Abreast s caller life n) :=
  relates_require_holding hn hdemand (Or.inl (Nat.le_refl n))

end Abreast

end Op

end Accounts
