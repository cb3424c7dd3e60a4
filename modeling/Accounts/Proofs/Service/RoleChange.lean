import Accounts.Proofs.Service.Roles
import Accounts.Proofs.Service.SignIn

/-!
# Changes of roles in two halves

Every operation that changes roles first writes to the store and then has the user concerned
forgotten by the cache, and others may come between the two. `RoleChange.write` is the first half,
and `RoleChange.op_eq` says that the operation is the two in a row. The rights of the caller are
left out of it: they are found out by a lookup of their own, and whoever may, the store gets the
same write (`Roles.revoke_store`).

The first half neither reads the cache nor writes to it (`Op.IgnoresCache`). So it commits the same
whatever the cache holds, also where the cache does not agree with the store just then
(`RoleChange.write_ends`).
-/

namespace Accounts

open Op

/-! ## Operations without the cache -/

namespace Op

variable {α β : Type}

/-- With another cache, the operation does the same and leaves that cache as it is. -/
def IgnoresCache (op : Op α) : Prop :=
  ∀ (w : World) (cache : RoleCache Int),
    op.exec { w with cache } = ((op.exec w).1, { (op.exec w).2 with cache })

theorem ignoresCache_pure (value : α) : (pure value : Op α).IgnoresCache := fun _ _ => rfl

theorem ignoresCache_throw (failure : Failure) : (throw failure : Op α).IgnoresCache :=
  fun _ _ => rfl

theorem ignoresCache_ofResult (result : Except Failure α) : (ofResult result).IgnoresCache := by
  cases result with
  | error failure => exact ignoresCache_throw failure
  | ok value => exact ignoresCache_pure value

/-- Behind a failure nothing is done. -/
theorem ignoresCache_throw_bind (failure : Failure) (next : α → Op β) :
    ((throw failure : Op α) >>= next).IgnoresCache := fun _ _ => rfl

theorem IgnoresCache.bind {op : Op α} (h : op.IgnoresCache) {next : α → Op β}
    (hnext : ∀ value, (next value).IgnoresCache) : (op >>= next).IgnoresCache := by
  intro w cache
  rw [exec_bind, exec_bind, h w cache]
  rcases op.exec w with ⟨failure | value, w'⟩
  · rfl
  · exact hnext value w' cache

theorem ignoresCache_now : now.IgnoresCache := fun _ _ => rfl

theorem ignoresCache_read (f : Store → α) : (read f).IgnoresCache := fun _ _ => rfl

theorem ignoresCache_write (f : Store → Except ServiceError (α × Store)) :
    (write f).IgnoresCache := by
  intro w cache
  rw [exec_write, exec_write]
  dsimp only
  rcases f w.store with error | ⟨value, store⟩ <;> rfl

theorem ignoresCache_put (f : Store → α × Store) : (put f).IgnoresCache := ignoresCache_write _

theorem ignoresCache_freshSagaId : freshSagaId.IgnoresCache := fun _ _ => rfl

theorem ignoresCache_freshRandom : freshRandom.IgnoresCache := fun _ _ => rfl

theorem ignoresCache_sagaIdOr (sent : Option JsonString) : (sagaIdOr sent).IgnoresCache := by
  cases sent with
  | none => exact ignoresCache_freshSagaId
  | some sagaId => exact ignoresCache_pure sagaId

/-- The system has every right without a lookup. -/
theorem ignoresCache_require (resource : Resource) (action : Action) (targets : List Target) :
    (require .system resource action targets).IgnoresCache := ignoresCache_pure ()

/-- Finding out about rights leaves the store alone. -/
theorem require_store {w : World} (caller : Caller) (resource : Resource) (action : Action)
    (targets : List Target) :
    (require caller resource action targets).Ends w (fun _ w' => w'.store = w.store)
      (fun _ w' => w'.store = w.store) := by
  have hcan : (can caller resource action targets).Ends w (fun _ w' => w'.store = w.store)
      (fun _ w' => w'.store = w.store) := by
    unfold can
    cases caller.authority with
    | system => rfl
    | nobody => rfl
    | user id =>
        have hrolesOf : (rolesOf id).Ends w (fun _ w' => w'.store = w.store) fun _ _ => False := by
          have hexec : (rolesOf id).exec w = rolesOf id w := rfl
          unfold Ends
          rw [hexec, rolesOf]
          rcases w.cache.begin w.now id with ⟨roles | ticket, cache⟩ <;> rfl
        exact hrolesOf.next (fun _ _ h => h) fun _ _ h => h.elim
  unfold require
  refine hcan.next ?_ fun _ _ h => h
  rintro (_ | _) w' hstore
  · exact hstore
  · exact hstore

theorem IgnoresCache.withSlot {op : Op α} (h : op.IgnoresCache) :
    (withSlot op).IgnoresCache := by
  intro w cache
  change Op.withSlot op { w with cache } =
    ((Op.withSlot op w).1, { (Op.withSlot op w).2 with cache })
  unfold Op.withSlot
  dsimp only
  by_cases hfree : w.slots.isFree = true
  · rw [if_pos hfree, if_pos hfree]
    have hinside := h { w with slots := { w.slots with inUse := w.slots.inUse + 1 } } cache
    dsimp only at hinside
    rw [hinside]
  · rw [if_neg hfree, if_neg hfree]

/-- What is written with a cache that agrees with the store is written with any other one. -/
theorem IgnoresCache.ends {op : Op α} (hop : op.IgnoresCache) {w : World}
    {ok : α → Commit → Prop} {failed : Commit → Prop}
    (h : ∀ w', w'.At w.now w.store → op.Writes w' w.now w.store ok failed) :
    op.Ends w
      (fun value w' => w'.cache = w.cache ∧ ∃ commit, ok value commit
        ∧ commit.Admissible w.store ∧ w'.store = commit.apply w.store)
      (fun _ w' => w'.cache = w.cache ∧ ∃ commit, failed commit
        ∧ commit.Admissible w.store ∧ w'.store = commit.apply w.store) := by
  let fresh : World := { w with cache := .empty 0 0 }
  have hfresh : fresh.At w.now w.store :=
    ⟨rfl, rfl, fun _ hmem => absurd hmem List.not_mem_nil⟩
  have hsame : op.exec w = ((op.exec fresh).1, { (op.exec fresh).2 with cache := w.cache }) :=
    hop fresh w.cache
  unfold Ends
  rcases (h fresh hfresh).cases with
    ⟨failure, w', hexec, commit, hcommit, hahead⟩ | ⟨value, w', hexec, commit, hcommit, hahead⟩
  · rw [hsame, hexec]
    exact ⟨rfl, commit, hcommit, hahead.admissible, hahead.store⟩
  · rw [hsame, hexec]
    exact ⟨rfl, commit, hcommit, hahead.admissible, hahead.store⟩

/-- A write of which another value is told. -/
theorem Writes.map {w : World} {time : Int} {s : Store} {op : Op α} {ok : α → Commit → Prop}
    {ok' : β → Commit → Prop} {failed : Commit → Prop} (h : op.Writes w time s ok failed)
    {f : α → β} (hok : ∀ value commit, ok value commit → ok' (f value) commit) :
    (op >>= fun value => pure (f value)).Writes w time s ok' failed :=
  Ends.next h (fun value _ ⟨commit, hcommit, hahead⟩ => ⟨commit, hok value commit hcommit, hahead⟩)
    fun _ _ h => h

end Op

namespace Roles

theorem grant_ignoresCache (payload : NewUserRole) : (grant payload).IgnoresCache :=
  ignoresCache_now.bind fun _ => (ignoresCache_put _).withSlot

theorem revoke_ignoresCache (id : Int) : (revoke .system id).IgnoresCache := by
  refine IgnoresCache.withSlot ((ignoresCache_read _).bind fun found => ?_)
  cases found with
  | none => exact ignoresCache_throw _
  | some role => exact (ignoresCache_require _ _ _).bind fun _ => ignoresCache_write _

/-- Whoever may revoke a grant, the store gets the same write. -/
theorem revoke_store {w : World} (caller : Caller) (id : Int) :
    (revoke caller id).Ends w (fun role w' => w.store.deleteRole id = .ok (role, w'.store))
      (fun _ w' => w'.store = w.store) := by
  unfold revoke
  rw [ends_withSlot]
  split
  · rw [ends_bind, ends_read]
    cases w.store.findRole id with
    | none => rfl
    | some role =>
        refine (require_store caller _ _ _).next ?_ fun _ _ h => h
        rintro _ w₁ hstore
        rw [ends_write, hstore]
        cases w.store.deleteRole id with
        | error error => rfl
        | ok written => rfl
  · rfl

theorem revokeAll_ignoresCache (userId : Int) : (revokeAll userId).IgnoresCache :=
  (ignoresCache_put _).withSlot

end Roles

namespace Users

theorem checkedUser_ignoresCache (p : NewUser) : (checkedUser p).IgnoresCache := by
  unfold checkedUser
  split
  · exact ignoresCache_pure _
  · exact ignoresCache_throw _

theorem hashNew_ignoresCache (password : String) : (hashNew password).IgnoresCache := by
  exact ignoresCache_freshRandom.bind fun random => ignoresCache_ofResult _

theorem enroll_ignoresCache (payload : NewIdentity) : (enroll payload).IgnoresCache := by
  refine (ignoresCache_sagaIdOr _).bind fun sagaId => IgnoresCache.withSlot ?_
  refine (ignoresCache_read _).bind fun taken => ?_
  split
  · exact ignoresCache_throw_bind _ _
  · refine (checkedUser_ignoresCache _).bind fun newUser => ignoresCache_now.bind fun time => ?_
    refine (ignoresCache_write _).bind fun user => (hashNew_ignoresCache _).bind fun stored => ?_
    refine (ignoresCache_write _).bind fun identity => (ignoresCache_put _).bind fun role => ?_
    exact ignoresCache_pure user

end Users

namespace SignIn

theorem link_ignoresCache (profile : Profile) (user : User) :
    (link profile user).IgnoresCache := by
  refine ignoresCache_now.bind fun time => (ignoresCache_write _).bind fun updated => ?_
  refine ignoresCache_freshSagaId.bind fun sagaId => (ignoresCache_write _).bind fun identity => ?_
  exact ignoresCache_pure _

theorem createFrom_ignoresCache (profile : Profile) : (createFrom profile).IgnoresCache := by
  refine (Users.checkedUser_ignoresCache _).bind fun newUser => ?_
  refine (ignoresCache_sagaIdOr _).bind fun sagaId => ignoresCache_now.bind fun time => ?_
  refine (ignoresCache_write _).bind fun user => (ignoresCache_write _).bind fun identity => ?_
  exact (ignoresCache_put _).bind fun role => ignoresCache_pure _

theorem reconcile_ignoresCache (profile : Profile) : (reconcile profile).IgnoresCache := by
  refine (ignoresCache_read _).bind fun known => ?_
  split
  · exact ignoresCache_pure _
  · refine (ignoresCache_read _).bind fun found => ?_
    cases found with
    | none => exact createFrom_ignoresCache profile
    | some user => exact link_ignoresCache profile user

end SignIn

/-! ## Changes of roles -/

/-- An operation that changes roles. -/
inductive RoleChange where
  | grant (payload : NewUserRole)
  | revoke (id : Int)
  | revokeAll (userId : Int)
  | signUp (payload : NewIdentity) (address : Email.IsAddress payload.email)
  | signIn (profile : Profile) (address : Email.IsAddress profile.email)

namespace RoleChange

/-- The operation as a whole, by a caller who may do everything. -/
def op : RoleChange → Op Unit
  | grant payload => do let _ ← Roles.create .system payload; return ()
  | revoke id => do let _ ← Roles.delete .system id; return ()
  | revokeAll userId => do let _ ← Roles.deleteAll .system userId; return ()
  | signUp payload _ => do let _ ← Users.create payload; return ()
  | signIn profile _ => do let _ ← SignIn.createOrLink profile; return ()

/-- What the operation writes to the store, and the user who is to be forgotten behind it. -/
def write : RoleChange → Op (Option Int)
  | grant payload => do
    let _ ← Roles.grant payload
    return some payload.userId
  | revoke id => do return some (← Roles.revoke .system id).userId
  | revokeAll userId => do
    let _ ← Roles.revokeAll userId
    return some userId
  | signUp payload _ => do return some (← Users.enroll payload).id
  | signIn profile _ => do
    match ← withSlot (SignIn.reconcile profile) with
    | .created userId => return some userId
    | _ => return none

/-- Forgets the user whose roles were changed. -/
def forget : Option Int → Op Unit
  | some userId => invalidateRoles userId
  | none => pure ()

/-- An operation that changes roles is its write, and then the user is forgotten. -/
theorem op_eq (change : RoleChange) : change.op = change.write >>= forget := by
  have hsystem : ∀ resource action targets,
      require .system resource action targets = pure () := fun _ _ _ => rfl
  cases change with
  | grant payload =>
      simp only [op, write, Roles.create, hsystem, bind_assoc, pure_bind, forget]
      rfl
  | revoke id =>
      simp only [op, write, Roles.delete, bind_assoc, pure_bind, forget]
      rfl
  | revokeAll userId =>
      simp only [op, write, Roles.deleteAll, hsystem, bind_assoc, pure_bind, forget]
      rfl
  | signUp payload address =>
      simp only [op, write, Users.create, bind_assoc, pure_bind, forget]
      rfl
  | signIn profile address =>
      simp only [op, write, SignIn.createOrLink, bind_assoc]
      refine congrArg _ (funext fun reconciled => ?_)
      cases reconciled with
      | created userId => simp only [bind_assoc, pure_bind, forget]; rfl
      | _ => simp only [pure_bind, forget]

variable {w : World} {time : Int} {s : Store}

/-- The user who is to be forgotten is the one whose roles the write changes. -/
theorem write_writes (hw : w.At time s) (hs : s.Sound) (change : RoleChange) :
    change.write.Writes w time s (fun owner commit => commit.roleOwner? = owner)
      (· = .nothing) := by
  cases change with
  | grant payload =>
      refine (Roles.grant_writes hw payload).map ?_
      rintro role commit ⟨howner, -, rfl⟩
      exact congrArg some howner
  | revoke id =>
      refine (Roles.revoke_writes hw hs .system id).map ?_
      rintro role commit ⟨-, rfl⟩
      rfl
  | revokeAll userId =>
      refine (Roles.revokeAll_writes hw userId).map ?_
      rintro roles commit rfl
      rfl
  | signUp payload address =>
      refine (Users.enroll_writes hw hs address).map ?_
      rintro user commit ⟨identity, role, rfl, -⟩
      rfl
  | signIn profile address =>
      refine Ends.next (Writes.withSlot hw
        (fun w' hw' => SignIn.reconcile_writes hw' hs address) fun _ => rfl) ?_ fun _ _ h => h
      rintro (_ | _ | userId) w' ⟨commit, hcommit, hahead⟩
      · obtain rfl := hcommit
        exact ⟨_, rfl, hahead⟩
      · obtain ⟨before, after, identity, rfl, -⟩ := hcommit
        exact ⟨_, rfl, hahead⟩
      · obtain ⟨user, identity, role, rfl, -, -, rfl⟩ := hcommit
        exact ⟨_, rfl, hahead⟩

theorem write_ignoresCache (change : RoleChange) : change.write.IgnoresCache := by
  cases change with
  | grant payload => exact (Roles.grant_ignoresCache payload).bind fun _ => ignoresCache_pure _
  | revoke id => exact (Roles.revoke_ignoresCache id).bind fun _ => ignoresCache_pure _
  | revokeAll userId =>
      exact (Roles.revokeAll_ignoresCache userId).bind fun _ => ignoresCache_pure _
  | signUp payload address =>
      exact (Users.enroll_ignoresCache payload).bind fun _ => ignoresCache_pure _
  | signIn profile address =>
      refine (SignIn.reconcile_ignoresCache profile).withSlot.bind fun reconciled => ?_
      cases reconciled with
      | _ => exact ignoresCache_pure _

/-- **The write of a change of roles.** Whatever the cache holds, it stays as it is. The store gets
one commit, which changes the roles of the user who is to be forgotten and of nobody else; where the
write fails, or nobody is to be forgotten, it changes nobody's roles. -/
theorem write_ends (hs : w.store.Sound) (change : RoleChange) :
    change.write.Ends w
      (fun owner w' => w'.cache = w.cache ∧ w'.store.Sound
        ∧ ∀ other, owner ≠ some other → w'.store.rolesOf other = w.store.rolesOf other)
      (fun _ w' => w'.cache = w.cache ∧ w'.store = w.store) := by
  refine (change.write_ignoresCache.ends fun w' hw' => change.write_writes hw' hs).mono ?_ ?_
  · rintro owner w' ⟨hcache, commit, rfl, hadmissible, hstore⟩
    rw [hstore]
    exact ⟨hcache, Commit.sound_apply hs hadmissible,
      fun other hne => Commit.rolesOf_apply hs hadmissible hne⟩
  · rintro _ w' ⟨hcache, commit, rfl, -, hstore⟩
    exact ⟨hcache, hstore⟩

end RoleChange

end Accounts
