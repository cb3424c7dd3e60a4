import Accounts.Proofs.Api.Calls
import Accounts.Proofs.RoleCache.Services
import Accounts.Proofs.RoleCache.Shortage

/-!
# The cache of roles is transparent

A call is answered the same, and leaves the same store behind, whatever the cache of roles holds, so
long as there are slots enough. Most calls find out the caller's rights before they take a slot, and
one slot is enough for them. Some find out about them while they hold one (`Call.room`); where the
cache does not know the caller, they need a second slot to read the roles through, and without it
the caller counts as one without roles and is refused.
-/

namespace Accounts

open Op

/-! ## Calls -/

namespace Call

/-- The caller whom a call asks for rights. -/
def caller? : Call → Option Caller
  | getUser caller _ | currentUser caller | findUserBySagaId caller _ | listUsers caller _ _
  | updateUser caller _ _ | deactivateUser caller _ | revokeTokens caller _ | listRoles caller _
  | createRole caller _ | createDefaultRole caller _ | deleteRole caller _ | deleteRoles caller _
  | changePassword caller _ | requestPasswordReset caller _
  | requestEmailVerification caller _ => some caller
  | _ => none

/-- The right to do something to a user, if there is one. -/
def demandsOn (action : Action) (user? : Option User) : List Demand :=
  user?.toList.map fun user => ⟨.users, action, Users.targetOf user⟩

/-- The rights that a call asks for. -/
def demands (s : Store) : Call → List Demand
  | getUser _ id => ⟨.users, .read, []⟩ :: demandsOn .read (s.findUser id)
  | currentUser caller => demandsOn .read (caller.email.bind s.findUserByAddress)
  | findUserBySagaId _ sagaId =>
    ⟨.users, .read, []⟩ :: demandsOn .read (s.findUserBySagaId sagaId)
  | listUsers _ _ _ => [⟨.users, .read, []⟩]
  | updateUser _ id _ | revokeTokens _ id =>
    ⟨.users, .update, []⟩ :: demandsOn .update (s.findUser id)
  | deactivateUser _ id => ⟨.users, .delete, []⟩ :: demandsOn .delete (s.findUser id)
  | listRoles _ userId => [⟨.userRoles, .read, [.ownedBy userId]⟩]
  | createRole _ payload => [⟨.userRoles, .create, [.ownedBy payload.userId]⟩]
  | createDefaultRole _ userId => [⟨.userRoles, .create, [.ownedBy userId]⟩]
  | deleteRole _ id =>
    (s.findRole id).toList.map fun role => ⟨.userRoles, .delete, [.userRole role.userId]⟩
  | deleteRoles _ userId => [⟨.userRoles, .delete, [.ownedBy userId]⟩]
  | changePassword caller _ => demandsOn .update (caller.userId.bind s.findUser)
  | requestPasswordReset _ payload | requestEmailVerification _ payload =>
    ⟨.users, .update, []⟩ :: demandsOn .update (s.findUserByEmail payload.email)
  | _ => []

/-- The slots that a call takes at once where the cache does not know the caller. -/
def room (life : Int) : Call → Nat
  | updateUser .. | deactivateUser .. | revokeTokens .. => Users.roomForChange life
  | deleteRole .. | changePassword .. | requestPasswordReset .. | requestEmailVerification .. => 2
  | _ => 1

/-- There are slots enough for a call whose caller is a user. -/
def HasRoom (w : World) (call : Call) : Prop :=
  ∀ caller ∈ call.caller?, ∀ userId, caller.authority = .user userId →
    w.HasSlots (call.room w.cache.lifetime)

/-- How a call may fail: it refuses a right that the store does not grant, or it refuses none. -/
def Refuses (s : Store) (call : Call) (failure : Failure) : Prop :=
  ∀ caller ∈ call.caller?, failure.Justified s caller (call.demands s)

theorem mem_demandsOn {action : Action} {user? : Option User} {user : User}
    (h : user? = some user) :
    ⟨.users, action, Users.targetOf user⟩ ∈ demandsOn action user? := by
  rw [h]
  exact List.mem_cons_self

theorem mem_demandsOn_of_cons {demand : Demand} {action : Action} {user? : Option User}
    {user : User} (h : user? = some user) :
    ⟨.users, action, Users.targetOf user⟩ ∈ demand :: demandsOn action user? :=
  List.mem_cons_of_mem _ (mem_demandsOn h)

/-- The worlds in which a call is compared. -/
def Beside (s : Store) (life : Int) (call : Call) (w w' : World) : Prop :=
  match call.caller? with
  | some caller => World.Abreast s caller life (call.room life) w w'
  | none => World.SameButCache w w'

theorem op_relates (s : Store) (life : Int) (call : Call) :
    call.op.Relates (call.Refuses s) (call.Beside s life) (fun _ => World.SameButCache) := by
  have hasks : ∀ {α : Type} {op : Op α} {caller : Caller}, call.caller? = some caller →
      op.Relates (Failure.Justified s caller (call.demands s))
        (World.Abreast s caller life (call.room life)) (fun _ => World.SameButCache) →
      op.Relates (call.Refuses s) (call.Beside s life) (fun _ => World.SameButCache) := by
    intro α op caller hcaller h
    have hbeside : call.Beside s life = World.Abreast s caller life (call.room life) := by
      funext w w'
      rw [Beside, hcaller]
    have hrefuses : call.Refuses s = Failure.Justified s caller (call.demands s) := by
      funext failure
      simp only [Refuses, hcaller, Option.mem_some_iff, forall_eq']
    rw [hbeside, hrefuses]
    exact h
  have hopen : ∀ {α : Type} {op : Op α}, call.caller? = none →
      op.Relates (fun _ => True) World.SameButCache (fun _ => World.SameButCache) →
      op.Relates (call.Refuses s) (call.Beside s life) (fun _ => World.SameButCache) := by
    intro α op hcaller h
    have hbeside : call.Beside s life = World.SameButCache := by
      funext w w'
      rw [Beside, hcaller]
    have hrefuses : call.Refuses s = fun _ => True := by
      funext failure
      simp only [Refuses, hcaller, Option.not_mem_none, false_implies, implies_true]
    rw [hbeside, hrefuses]
    exact h
  cases call with
  | getUser caller id =>
      exact hasks rfl (Users.get_relates id List.mem_cons_self fun _ => mem_demandsOn_of_cons)
  | currentUser caller => exact hasks rfl (Users.current_relates fun _ => mem_demandsOn)
  | findUserBySagaId caller sagaId =>
      exact hasks rfl
        (Users.findBySagaId_relates sagaId List.mem_cons_self fun _ => mem_demandsOn_of_cons)
  | listUsers caller fromId count =>
      exact hasks rfl (Users.list_relates fromId count List.mem_cons_self)
  | createUser payload address =>
      exact hopen rfl (Roles.relates_forget (Users.enroll_ignoresCache payload).relates)
  | updateUser caller id payload =>
      exact hasks rfl (relates_now_bind fun time =>
        Users.change_relates List.mem_cons_self fun _ => mem_demandsOn_of_cons)
  | deactivateUser caller id =>
      exact hasks rfl (relates_now_bind fun time =>
        Users.change_relates List.mem_cons_self fun _ => mem_demandsOn_of_cons)
  | revokeTokens caller id =>
      exact hasks rfl (relates_now_bind fun time =>
        Users.change_relates List.mem_cons_self fun _ => mem_demandsOn_of_cons)
  | listRoles caller userId => exact hasks rfl (Roles.list_relates userId List.mem_cons_self)
  | createRole caller payload =>
      exact hasks rfl (Roles.create_relates payload List.mem_cons_self)
  | createDefaultRole caller userId =>
      exact hasks rfl (Roles.create_relates ⟨userId, Roles.defaultRole⟩ List.mem_cons_self)
  | deleteRole caller id =>
      refine hasks rfl (Roles.delete_relates id fun role hfind => ?_)
      simp only [demands, hfind, Option.toList_some, List.map_cons, List.map_nil,
        List.mem_singleton]
  | deleteRoles caller userId =>
      exact hasks rfl (Roles.deleteAll_relates userId List.mem_cons_self)
  | changePassword caller payload =>
      exact hasks rfl (Credentials.changePassword_relates payload fun _ => mem_demandsOn)
  | requestPasswordReset caller payload =>
      exact hasks rfl (Credentials.request_relates payload _ _ _ List.mem_cons_self
        fun _ => mem_demandsOn_of_cons)
  | applyPasswordReset life payload =>
      exact hopen rfl (Credentials.applyPasswordReset_ignoresCache life payload).relates
  | requestEmailVerification caller payload =>
      exact hasks rfl (Credentials.request_relates payload _ _ _ List.mem_cons_self
        fun _ => mem_demandsOn_of_cons)
  | applyEmailVerification life payload =>
      exact hopen rfl (Credentials.applyEmailVerification_ignoresCache life payload).relates
  | signInWithPassword codec payload =>
      exact hopen rfl (SignIn.withPassword_ignoresCache codec payload).relates
  | signInWithProvider codec providers provider payload =>
      exact hopen rfl (SignIn.withProvider_relates codec providers provider payload)
  | createOrLink profile address => exact hopen rfl (SignIn.createOrLink_relates profile)

end Call

/-- The world once everything cached was forgotten. -/
def World.cold (w : World) : World := { w with cache := w.cache.clear }

namespace Op

variable {α β : Type} {w : World} {op : Op α}

/-- The operation comes to the same with everything cached forgotten. -/
structure Transparent (op : Op α) (w : World) : Prop where
  result : (op.exec w.cold).1 = (op.exec w).1
  store : (op.exec w.cold).2.store = (op.exec w).2.store

theorem transparent_ofResult (result : Except Failure α) : (ofResult result).Transparent w := by
  cases result <;> exact ⟨rfl, rfl⟩

/-- An answer may be shown in another form. -/
theorem Transparent.map (h : op.Transparent w) (f : α → β) :
    (op >>= fun value => pure (f value)).Transparent w := by
  obtain ⟨hresult, hstore⟩ := h
  have hexec : ∀ v : World, (op >>= fun value => pure (f value)).exec v =
      ((op.exec v).1.map f, (op.exec v).2) := by
    intro v
    rw [exec_bind]
    rcases op.exec v with ⟨failure | value, w'⟩ <;> rfl
  exact ⟨by rw [hexec, hexec, hresult], by rw [hexec, hexec]; exact hstore⟩

/-- Nor does it make a difference how an answer is delivered. -/
theorem Transparent.delivered {op : Op Json} (h : op.Transparent w) (origin : Option String) :
    (Api.delivered origin op w.cold).1 = (Api.delivered origin op w).1
      ∧ (Api.delivered origin op w.cold).2.store = (Api.delivered origin op w).2.store := by
  refine ⟨congrArg (Api.render origin) h.result, ?_⟩
  rw [Api.delivered_store, Api.delivered_store, h.store]

end Op

namespace Call

variable {w : World}

/-- With slots enough, a call comes to the same with everything cached forgotten, and refuses only
rights that the store does not grant. -/
theorem op_transparent (hw : w.Settled) {call : Call} (hroom : call.HasRoom w) :
    call.op.Transparent w
      ∧ ∀ failure, (call.op.exec w).1 = .error failure → call.Refuses w.store failure := by
  have hbeside : call.Beside w.store w.cache.lifetime w w.cold := by
    have hsame : w.SameButCache w.cold := ⟨_, rfl⟩
    unfold Beside
    split
    · rename_i caller hcaller
      exact ⟨hsame, rfl, hw.agrees, fun _ hmem => absurd hmem List.not_mem_nil, rfl, rfl,
        fun userId huser => Or.inl (hroom caller hcaller userId huser)⟩
    · exact hsame
  rcases call.op_relates w.store w.cache.lifetime w w.cold hbeside with
    ⟨answer, w₁, _, hexec, hexec', cache, rfl⟩ |
    ⟨failure, w₁, _, hexec, hexec', hrefuses, cache, rfl⟩
  · rw [hexec]
    exact ⟨⟨by rw [hexec, hexec'], by rw [hexec, hexec']⟩, fun _ h => nomatch h⟩
  · rw [hexec]
    refine ⟨⟨by rw [hexec, hexec'], by rw [hexec, hexec']⟩, fun other hother => ?_⟩
    rw [← Except.error.inj hother]
    exact hrefuses

end Call

namespace Call

variable {w : World} {caller : Caller} {userId : Int}

theorem room_le_two (life : Int) (call : Call) : call.room life ≤ 2 := by
  have hchange : Users.roomForChange life ≤ 2 := by
    unfold Users.roomForChange
    split
    · exact Nat.le_succ 1
    · exact Nat.le_refl 2
  cases call with
  | updateUser | deactivateUser | revokeTokens => exact hchange
  | deleteRole | changePassword | requestPasswordReset | requestEmailVerification =>
      exact Nat.le_refl 2
  | _ => exact Nat.le_succ 1

/-- With one slot and nothing cached, a call that needs two slots fails. -/
theorem op_cold_fails {call : Call} (hasked : call.caller? = some caller)
    (hcaller : caller.authority = .user userId) (hone : w.HasSlots 1)
    (hshort : ¬w.HasSlots (call.room w.cache.lifetime)) : call.op.Fails w.cold := by
  have hlast : ¬w.cold.HasSlots 2 := fun htwo => hshort (htwo.mono (call.room_le_two _))
  have hmissing : ¬w.cold.Holds userId := by
    rintro ⟨entry, hget, -⟩
    cases hget
  have hchange : ¬w.HasSlots (Users.roomForChange w.cache.lifetime) →
      w.cold.cache.lifetime ≤ 0 := by
    intro h
    unfold Users.roomForChange at h
    split at h
    · exact absurd hone h
    · exact Int.not_lt.mp ‹_›
  cases call with
  | updateUser asking id payload =>
      obtain rfl := Option.some.inj hasked
      exact fails_now fun _ => Users.change_fails rfl (hchange hshort) hcaller hlast _ _ _
  | deactivateUser asking id =>
      obtain rfl := Option.some.inj hasked
      exact fails_now fun _ => Users.change_fails rfl (hchange hshort) hcaller hlast _ _ _
  | revokeTokens asking id =>
      obtain rfl := Option.some.inj hasked
      exact fails_now fun _ => Users.change_fails rfl (hchange hshort) hcaller hlast _ _ _
  | deleteRole asking id =>
      obtain rfl := Option.some.inj hasked
      exact Roles.delete_fails hmissing hcaller hlast id
  | changePassword asking payload =>
      obtain rfl := Option.some.inj hasked
      exact Credentials.changePassword_fails hmissing hcaller hlast payload
  | requestPasswordReset asking payload =>
      obtain rfl := Option.some.inj hasked
      exact Credentials.request_fails hmissing hcaller hlast payload _ _ _
  | requestEmailVerification asking payload =>
      obtain rfl := Option.some.inj hasked
      exact Credentials.request_fails hmissing hcaller hlast payload _ _ _
  | _ => exact absurd hone hshort

end Call

/-! ## Requests -/

namespace Api

variable {setup : Setup} {request : Http.Request} {w : World}

theorem resolveCaller_ignoresCache (email : Option JsonString) :
    (resolveCaller email).IgnoresCache := by
  unfold resolveCaller
  cases email with
  | none => exact ignoresCache_pure _
  | some email =>
      dsimp only
      split
      · exact ignoresCache_pure _
      · refine (ignoresCache_read _).withSlot.bind fun user? => ?_
        cases user? with
        | none => exact ignoresCache_pure _
        | some user => exact ignoresCache_pure _

/-- Who is calling does not depend on the cache. -/
theorem Endpoint.caller_ignoresCache (endpoint : Endpoint) :
    (endpoint.caller setup request).IgnoresCache := by
  unfold Endpoint.caller
  split
  · exact ignoresCache_pure _
  · unfold authenticate
    cases request.bearer? with
    | none => exact resolveCaller_ignoresCache none
    | some token =>
        intro w cache
        have hresolve : (ofResult (setup.codec.decode setup.tokenDepth (w.now / 1000000) token)
            >>= fun email => resolveCaller (some email)).IgnoresCache :=
          (ignoresCache_ofResult _).bind fun email => resolveCaller_ignoresCache (some email)
        dsimp only
        rw [exec_bind, exec_bind]
        exact hresolve w cache

/-- A request comes to the same with everything cached forgotten, if its call has slots enough. -/
theorem exchange_cold (hw : w.Settled)
    (hroom : ∀ call, callOf? setup request w = some call → call.HasRoom w) :
    (Session.exchange setup request w.cold).1 = (Session.exchange setup request w).1
      ∧ (Session.exchange setup request w.cold).2.store
        = (Session.exchange setup request w).2.store := by
  cases hendpoint : endpoint? setup request with
  | none =>
      obtain ⟨response, hexchange⟩ := exchange_of_endpoint?_eq_none hendpoint
      rw [hexchange, hexchange]
      exact ⟨rfl, rfl⟩
  | some found =>
      obtain ⟨route, endpoint⟩ := found
      suffices htransparent : Op.Transparent (endpoint.caller setup request >>= fun caller =>
          endpoint.run setup request route caller) w by
        rw [exchange_of_endpoint? hendpoint, exchange_of_endpoint? hendpoint]
        exact htransparent.delivered _
      have hcold : (endpoint.caller setup request).exec w.cold = _ :=
        endpoint.caller_ignoresCache w w.cache.clear
      have hworld : ((endpoint.caller setup request).exec w).2 = w := endpoint.caller_world
      simp only [callOf?, hendpoint, Option.bind_some] at hroom
      rcases hexec : (endpoint.caller setup request).exec w with ⟨failure | caller, w'⟩
      all_goals
        rw [hexec] at hworld hroom hcold
        obtain rfl : w' = w := hworld
      · exact ⟨by rw [exec_bind, exec_bind, hexec, hcold], by
          rw [exec_bind, exec_bind, hexec, hcold]⟩
      · have hrun : (endpoint.run setup request route caller).Transparent w' := by
          have hmakes : (endpoint.run setup request route caller).Makes
              (endpoint.call? setup request route caller) := endpoint.run_makes route caller
          simp only [Except.toOption, Option.bind_some] at hroom
          cases hcall : endpoint.call? setup request route caller with
          | none =>
              rw [hcall] at hmakes
              obtain ⟨result, hrun⟩ := hmakes
              rw [hrun]
              exact transparent_ofResult result
          | some call =>
              rw [hcall] at hmakes
              obtain ⟨shown, hrun⟩ := hmakes
              rw [hrun]
              exact (call.op_transparent hw (hroom call hcall)).1.map shown
        exact ⟨by rw [exec_bind, exec_bind, hexec, hcold]; exact hrun.result,
          by rw [exec_bind, exec_bind, hexec, hcold]; exact hrun.store⟩

end Api

/-- **The cache of roles is transparent where there are slots enough.** In a state that runs lead
to, with everything cached forgotten, a call or a request is answered the same and leaves the same
store behind, provided that a call for which a user asks finds as many free slots as it takes at
once: one, or two for a call that checks rights while it holds a slot. A call that then refuses a
right refuses one that the roles in the store do not grant. With a single free slot, a call that
takes two fails once the caller's roles are forgotten, whatever they are, and changes nothing. -/
theorem cache_transparent {w : World} (hw : w.Reachable) :
    (∀ call : Call, call.HasRoom w →
        (call.op.exec w.cold).1 = (call.op.exec w).1
          ∧ (call.op.exec w.cold).2.store = (call.op.exec w).2.store)
      ∧ (∀ setup request, (∀ call, Api.callOf? setup request w = some call → call.HasRoom w) →
        (Session.exchange setup request w.cold).1 = (Session.exchange setup request w).1
          ∧ (Session.exchange setup request w.cold).2.store
            = (Session.exchange setup request w).2.store)
      ∧ (∀ (call : Call) (caller : Caller) (action : Action) (resource : Resource),
        call.HasRoom w → call.caller? = some caller →
        (call.op.exec w.cold).1 = .error (.service (.denied action resource)) →
        ∃ demand ∈ call.demands w.store, demand.action = action ∧ demand.resource = resource
          ∧ ¬w.store.Permits caller resource action demand.targets)
      ∧ ∀ (call : Call) (caller : Caller) (userId : Int), call.caller? = some caller →
        caller.authority = .user userId → w.HasSlots 1 →
        ¬w.HasSlots (call.room w.cache.lifetime) →
        (∃ failure, (call.op.exec w.cold).1 = .error failure)
          ∧ (call.op.exec w.cold).2.store = w.store := by
  refine ⟨fun call hroom => ?_, fun setup request hroom => Api.exchange_cold hw.settled hroom,
    fun call caller action resource hroom hasked hdenied => ?_,
    fun call caller userId hasked hcaller hone hshort => ?_⟩
  · obtain ⟨htransparent, -⟩ := call.op_transparent hw.settled hroom
    exact ⟨htransparent.result, htransparent.store⟩
  · obtain ⟨htransparent, hrefuses⟩ := call.op_transparent hw.settled hroom
    rw [htransparent.result] at hdenied
    exact hrefuses _ hdenied caller hasked action resource rfl
  · rcases (call.op_cold_fails hasked hcaller hone hshort).cases with
      ⟨failure, w', hexec, hstore⟩ | ⟨_, _, -, hno⟩
    · rw [hexec]
      exact ⟨⟨failure, rfl⟩, hstore⟩
    · exact hno.elim

/-- With one slot, a user whose roles are cached reads the own profile and asks for a verification.
Once the roles are forgotten, the first is answered the same, and the second is refused. -/
theorem cache_transparent_of_one_slot :
    let start : World := ⟨0, .empty, .empty 600 0, ⟨1, 0, true⟩, .start [], []⟩
    let ann : Caller := ⟨some 1, some (.text "ann@example.com"), .user 1⟩
    let w := start.run
      [.call (.createUser ⟨"ann@example.com", "password1", none⟩ Email.isAddress_plain),
        .call (.currentUser ann)]
    let profile := Call.currentUser ann
    let verification := Call.requestEmailVerification ann ⟨"ann@example.com"⟩
    (profile.op.exec w.cold).1 = (profile.op.exec w).1
      ∧ (verification.op.exec w).1.isOk = true
      ∧ ∃ failure, (verification.op.exec w.cold).1 = .error failure := by
  intro start ann w profile verification
  have hw : w.Reachable := ⟨start, _, ⟨rfl, rfl⟩, rfl⟩
  have hslots : w.slots = ⟨1, 0, true⟩ := by decide +kernel
  have hone : w.HasSlots 1 := by
    unfold World.HasSlots
    rw [hslots]
    exact ⟨rfl, Nat.le_refl 1⟩
  have hlast : ¬w.HasSlots 2 := by
    unfold World.HasSlots
    rw [hslots]
    exact fun h => absurd h.2 (by decide)
  obtain ⟨hcalls, -, -, hshort⟩ := cache_transparent hw
  refine ⟨(hcalls profile fun caller hcaller userId _ => hone).1, by decide +kernel, ?_⟩
  exact (hshort verification ann 1 rfl rfl hone hlast).1

end Accounts
