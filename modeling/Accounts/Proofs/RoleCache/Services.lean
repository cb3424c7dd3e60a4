import Accounts.Proofs.TwoRuns

/-!
# Services with another cache of roles

What the operations of the services do in two worlds that differ in their caches of roles. Most of
them find out the caller's rights before they take a slot, some while they hold one, and some ask
for no rights at all. Behind such checks an operation neither looks at the cache nor refuses rights
(`Op.Blind`), so that each of them is related to itself by what its checks ask for.
-/

namespace Accounts

open Op

/-! ## What neither looks at the cache nor refuses rights -/

namespace Op

variable {α β : Type}

/-- With another cache the operation does the same, and it does not refuse rights. -/
structure Blind (op : Op α) : Prop where
  ignores : op.IgnoresCache
  notDenied : ∀ w, op.Ends w (fun _ _ => True) fun failure _ =>
    ∀ action resource, failure ≠ .service (.denied action resource)

theorem blind_pure (value : α) : (pure value : Op α).Blind :=
  ⟨ignoresCache_pure value, fun _ => trivial⟩

theorem blind_throw {failure : Failure}
    (h : ∀ action resource, failure ≠ .service (.denied action resource)) :
    (throw failure : Op α).Blind := ⟨ignoresCache_throw failure, fun _ => h⟩

theorem Blind.bind {op : Op α} (h : op.Blind) {next : α → Op β}
    (hnext : ∀ value, (next value).Blind) : (op >>= next).Blind :=
  ⟨h.ignores.bind fun value => (hnext value).ignores, fun w =>
    (h.notDenied w).next (fun value w' _ => (hnext value).notDenied w') fun _ _ h => h⟩

theorem blind_throw_bind {failure : Failure}
    (h : ∀ action resource, failure ≠ .service (.denied action resource)) (next : α → Op β) :
    ((throw failure : Op α) >>= next).Blind :=
  ⟨ignoresCache_throw_bind failure next, fun _ => ends_bind.mpr h⟩

theorem blind_now : now.Blind := ⟨ignoresCache_now, fun _ => trivial⟩

theorem blind_read (f : Store → α) : (read f).Blind := ⟨ignoresCache_read f, fun _ => trivial⟩

theorem blind_write {f : Store → Except ServiceError (α × Store)}
    (h : ∀ s error, f s = .error error → ∀ action resource, error ≠ .denied action resource) :
    (write f).Blind := by
  refine ⟨ignoresCache_write f, fun w => ends_write.mpr ?_⟩
  split
  · trivial
  · rename_i error herror
    exact fun action resource e => h _ error herror action resource (Failure.service.inj e)

theorem blind_put (f : Store → α × Store) : (put f).Blind :=
  blind_write fun _ _ h => nomatch h

theorem Blind.withSlot {op : Op α} (h : op.Blind) : (withSlot op).Blind := by
  refine ⟨h.ignores.withSlot, fun w => ?_⟩
  rw [ends_withSlot]
  split
  · refine (h.notDenied _).mono (fun _ _ h => h) fun failure _ hnot => ?_
    cases failure with
    | service error => exact hnot
    | crash crash => exact fun _ _ e => nomatch e
  · exact fun _ _ e => nomatch e

theorem Blind.relates {op : Op α} (h : op.Blind) {allowed : Failure → Prop}
    (htolerates : Tolerates allowed) :
    op.Relates allowed World.SameButCache (fun _ => World.SameButCache) :=
  relates_of_ignoresCache h.ignores fun w =>
    (h.notDenied w).mono (fun _ _ h => h) fun failure _ hnot => htolerates failure hnot

variable {s : Store} {caller : Caller} {life : Int} {n : Nat}

/-- Behind its checks, an operation may be blind. -/
theorem Blind.relates_abreast {op : Op α} (h : op.Blind) {allowed : Failure → Prop}
    (htolerates : Tolerates allowed) :
    op.Relates allowed (World.Abreast s caller life n) (fun _ => World.SameButCache) :=
  (h.relates htolerates).mono (fun _ _ hw => hw.same) fun _ _ _ hw => hw

end Op

namespace Users

variable {s : Store} {caller : Caller} {life : Int} {demands : List Demand}

theorem blind_modifyUser (id : Int) (f : User → User) : (write (·.modifyUser id f)).Blind := by
  refine blind_write fun s error h action resource => ?_
  unfold Store.modifyUser at h
  split at h
  · cases h
    exact fun e => nomatch e
  · cases h

theorem blind_hashNew (password : String) : (hashNew password).Blind :=
  ⟨hashNew_ignoresCache password, fun _ =>
    (ends_hashNew password).mono (fun _ _ _ => trivial) fun _ _ h => h.elim⟩

/-- A user who was looked for, or who is missing. -/
theorem relates_found {what : Missing} {user? : Option User} {next : User → Op α}
    {allowed : Failure → Prop} {n : Nat} {post : α → World → World → Prop}
    (htolerates : Tolerates allowed)
    (h : ∀ user, user? = some user →
      (next user).Relates allowed (World.Abreast s caller life n) post) :
    (found what user? >>= next).Relates allowed (World.Abreast s caller life n) post := by
  cases user? with
  | none =>
      have hnone : (found what none >>= next) = throw (.service (.missing what)) := rfl
      rw [hnone]
      exact relates_throw (htolerates _ fun _ _ e => nomatch e) fun _ _ hw => hw.same
  | some user => exact h user rfl

theorem readable_relates {what : Missing} {look : Store → Option User}
    (htarget : ∀ user, look s = some user → ⟨.users, .read, targetOf user⟩ ∈ demands) :
    (readable caller what look).Relates (Failure.Justified s caller demands)
      (World.Abreast s caller life 1) (fun _ => World.SameButCache) := by
  have htolerates := tolerates_justified s caller demands
  unfold readable
  refine relates_readBack_bind htolerates (relates_found htolerates fun user hlook => ?_)
  exact (relates_require (Nat.le_refl 1) (htarget user hlook)).bind fun _ =>
    relates_pure fun _ _ hw => hw.same

theorem get_relates (id : Int) (hread : ⟨.users, .read, []⟩ ∈ demands)
    (htarget : ∀ user, s.findUser id = some user → ⟨.users, .read, targetOf user⟩ ∈ demands) :
    (Users.get caller id).Relates (Failure.Justified s caller demands)
      (World.Abreast s caller life 1) (fun _ => World.SameButCache) :=
  (relates_require (Nat.le_refl 1) hread).bind fun _ => readable_relates htarget

theorem current_relates
    (htarget : ∀ user, caller.email.bind s.findUserByAddress = some user →
      ⟨.users, .read, targetOf user⟩ ∈ demands) :
    (Users.current caller).Relates (Failure.Justified s caller demands)
      (World.Abreast s caller life 1) (fun _ => World.SameButCache) := by
  have hnoEmail : (fail (.unauthenticated .noEmail) : Op User).Relates
      (Failure.Justified s caller demands) (World.Abreast s caller life 1)
      (fun _ => World.SameButCache) :=
    relates_throw (tolerates_justified _ _ _ _ fun _ _ e => nomatch e) fun _ _ hw => hw.same
  unfold Users.current
  cases hemail : caller.email with
  | none => exact hnoEmail
  | some email =>
      dsimp only
      split
      · exact hnoEmail
      · refine readable_relates fun user hfind => htarget user ?_
        rw [hemail]
        exact hfind

theorem findBySagaId_relates (sagaId : JsonString) (hread : ⟨.users, .read, []⟩ ∈ demands)
    (htarget : ∀ user, s.findUserBySagaId sagaId = some user →
      ⟨.users, .read, targetOf user⟩ ∈ demands) :
    (findBySagaId caller sagaId).Relates (Failure.Justified s caller demands)
      (World.Abreast s caller life 1) (fun _ => World.SameButCache) :=
  (relates_require (Nat.le_refl 1) hread).bind fun _ => readable_relates htarget

theorem list_relates (fromId count : Int) (hread : ⟨.users, .read, []⟩ ∈ demands) :
    (Users.list caller fromId count).Relates (Failure.Justified s caller demands)
      (World.Abreast s caller life 1) (fun _ => World.SameButCache) := by
  have htolerates := tolerates_justified s caller demands
  unfold Users.list
  dsimp only
  split
  · refine Blind.relates_abreast (blind_throw_bind ?_ _) htolerates
    exact fun _ _ e => nomatch e
  · exact (relates_require (Nat.le_refl 1) hread).bind fun _ =>
      (blind_read _).withSlot.relates_abreast htolerates

/-- The slots that a change takes at once where the cache does not know the caller: the check in
front of it has the roles held, unless the cache keeps no entries. -/
def roomForChange (life : Int) : Nat := if 0 < life then 1 else 2

theorem change_relates {action : Action} {id : Int} {f : User → User}
    (hfirst : ⟨.users, action, []⟩ ∈ demands)
    (htarget : ∀ user, s.findUser id = some user → ⟨.users, action, targetOf user⟩ ∈ demands) :
    (change caller action id (·.modifyUser id f)).Relates (Failure.Justified s caller demands)
      (World.Abreast s caller life (roomForChange life)) (fun _ => World.SameButCache) := by
  have htolerates := tolerates_justified s caller demands
  have hroom : 1 ≤ roomForChange life ∧ (2 ≤ roomForChange life ∨ 0 < life) := by
    unfold roomForChange
    split
    · rename_i hlife
      exact ⟨Nat.le_refl 1, Or.inr hlife⟩
    · exact ⟨by omega, Or.inl (Nat.le_refl 2)⟩
  unfold change
  refine (relates_require_holding hroom.1 hfirst hroom.2).bind fun _ =>
    relates_withSlot htolerates (relates_read_bind (relates_found htolerates fun user hfind => ?_))
  exact (relates_require (Nat.le_refl 1) (htarget user hfind)).bind fun _ =>
    (blind_modifyUser id f).relates_abreast htolerates

end Users

namespace Roles

variable {s : Store} {caller : Caller} {life : Int} {demands : List Demand}

/-- The cache forgets somebody, and the answer stays. -/
theorem relates_forget {allowed : Failure → Prop} {op : Op α} {userId : α → Int}
    {pre : World → World → Prop} (h : op.Relates allowed pre fun _ => World.SameButCache) :
    (op >>= fun value => invalidateRoles (userId value) >>= fun _ => pure value).Relates allowed pre
      fun _ => World.SameButCache :=
  h.bind fun _ => (relates_invalidateRoles _).bind fun _ => relates_pure fun _ _ hw => hw

theorem list_relates (userId : Int)
    (hread : ⟨.userRoles, .read, [.ownedBy userId]⟩ ∈ demands) :
    (Roles.list caller userId).Relates (Failure.Justified s caller demands)
      (World.Abreast s caller life 1) (fun _ => World.SameButCache) :=
  (relates_require (Nat.le_refl 1) hread).bind fun _ =>
    (blind_read _).withSlot.relates_abreast (tolerates_justified s caller demands)

theorem create_relates (payload : NewUserRole)
    (hcreate : ⟨.userRoles, .create, [.ownedBy payload.userId]⟩ ∈ demands) :
    (Roles.create caller payload).Relates (Failure.Justified s caller demands)
      (World.Abreast s caller life 1) (fun _ => World.SameButCache) := by
  have hgrant : (grant payload).Blind := blind_now.bind fun _ => (blind_put _).withSlot
  exact (relates_require (Nat.le_refl 1) hcreate).bind fun _ =>
    relates_forget (hgrant.relates_abreast (tolerates_justified s caller demands))

theorem delete_relates (id : Int)
    (hdelete : ∀ role, s.findRole id = some role →
      ⟨.userRoles, .delete, [.userRole role.userId]⟩ ∈ demands) :
    (Roles.delete caller id).Relates (Failure.Justified s caller demands)
      (World.Abreast s caller life 2) (fun _ => World.SameButCache) := by
  have htolerates := tolerates_justified s caller demands
  have hwrite : (write (·.deleteRole id)).Blind := by
    refine blind_write fun s error h action resource => ?_
    unfold Store.deleteRole at h
    split at h
    · cases h
      exact fun e => nomatch e
    · cases h
  unfold Roles.delete revoke
  refine relates_forget (relates_withSlot htolerates (relates_read_bind ?_))
  cases hfind : s.findRole id with
  | none => exact relates_throw (htolerates _ fun _ _ e => nomatch e) fun _ _ hw => hw.same
  | some role =>
      exact (relates_require (Nat.le_refl 1) (hdelete role hfind)).bind fun _ =>
        hwrite.relates_abreast htolerates

theorem deleteAll_relates (userId : Int)
    (hdelete : ⟨.userRoles, .delete, [.ownedBy userId]⟩ ∈ demands) :
    (deleteAll caller userId).Relates (Failure.Justified s caller demands)
      (World.Abreast s caller life 1) (fun _ => World.SameButCache) :=
  (relates_require (Nat.le_refl 1) hdelete).bind fun _ =>
    relates_forget ((blind_put _).withSlot.relates_abreast (tolerates_justified s caller demands))

end Roles

namespace Credentials

variable {s : Store} {caller : Caller} {life : Int} {demands : List Demand}

theorem blind_isPassword (stored : Option String) (password : String) :
    (isPassword stored password).Blind := by
  unfold isPassword
  cases h : Password.verify (stored.map (Text.codesOf ·.toList)) (Text.codesOf password.toList) with
  | error failure =>
      rcases Password.failure_of_verify h with rfl | rfl
      · exact blind_throw fun _ _ e => nomatch e
      · exact blind_throw fun _ _ e => nomatch e
  | ok same => exact blind_pure same

theorem blind_replacePassword (email : String) (userId : Int) (password : String) :
    (replacePassword email userId password).Blind := by
  refine (Users.blind_hashNew password).bind fun stored => (blind_write ?_).bind fun _ =>
    blind_now.bind fun _ => Users.blind_modifyUser userId _
  intro s error h action resource
  unfold Store.updatePassword at h
  split at h
  · cases h
    exact fun e => nomatch e
  · cases h

theorem changePassword_relates (payload : ChangeIdentityPassword)
    (htarget : ∀ user, caller.userId.bind s.findUser = some user →
      ⟨.users, .update, Users.targetOf user⟩ ∈ demands) :
    (changePassword caller payload).Relates (Failure.Justified s caller demands)
      (World.Abreast s caller life 2) (fun _ => World.SameButCache) := by
  have htolerates := tolerates_justified s caller demands
  unfold changePassword
  cases huserId : caller.userId with
  | none => exact relates_throw (htolerates _ fun _ _ e => nomatch e) fun _ _ hw => hw.same
  | some userId =>
      refine relates_withSlot htolerates
        (relates_read_bind (Users.relates_found htolerates fun user hfind => ?_))
      have hdemand := htarget user (by rw [huserId]; exact hfind)
      refine (relates_require (Nat.le_refl 1) hdemand).bind fun _ => ?_
      refine Blind.relates_abreast ((blind_read _).bind fun identity? => ?_) htolerates
      cases identity? with
      | none => exact blind_throw fun _ _ e => nomatch e
      | some identity =>
          refine (blind_isPassword _ _).bind fun same => ?_
          split
          · refine blind_throw_bind ?_ _
            exact fun _ _ e => nomatch e
          · exact blind_replacePassword _ _ _

theorem request_relates (payload : ResetRequest) (provider : Provider) (tokenType : TokenType)
    (refusal : String) (hfirst : ⟨.users, .update, []⟩ ∈ demands)
    (htarget : ∀ user, s.findUserByEmail payload.email = some user →
      ⟨.users, .update, Users.targetOf user⟩ ∈ demands) :
    (request caller payload provider tokenType refusal).Relates
      (Failure.Justified s caller demands) (World.Abreast s caller life 2)
      (fun _ => World.SameButCache) := by
  have htolerates := tolerates_justified s caller demands
  have hfreshToken : freshToken.Blind := ⟨fun _ _ => rfl, fun _ => trivial⟩
  unfold request requireUpdate
  refine relates_withSlot htolerates ?_
  rw [bind_assoc]
  refine (relates_require (Nat.le_refl 1) hfirst).bind fun _ => ?_
  rw [bind_assoc]
  refine relates_read_bind ?_
  rw [bind_assoc]
  refine Users.relates_found htolerates fun user hfind => ?_
  refine (relates_require (Nat.le_refl 1) (htarget user hfind)).bind fun _ => ?_
  refine Blind.relates_abreast ((blind_read _).bind fun known => ?_) htolerates
  split
  · refine blind_throw_bind ?_ _
    exact fun _ _ e => nomatch e
  · exact hfreshToken.bind fun _ => blind_now.bind fun _ => blind_put _

end Credentials

/-! ## What asks for no rights -/

namespace Op

variable {α : Type} {op : Op α}

theorem IgnoresCache.relates (h : op.IgnoresCache) :
    op.Relates (fun _ => True) World.SameButCache (fun _ => World.SameButCache) := by
  refine relates_of_ignoresCache h fun w => ?_
  unfold Ends
  rcases op.exec w with ⟨failure | value, w'⟩ <;> trivial

end Op

namespace Credentials

theorem useToken_ignoresCache (life : Lifetime) (token : String) (tokenType : TokenType) :
    (useToken life token tokenType).IgnoresCache := by
  refine (ignoresCache_put _).bind fun taken => ?_
  cases taken with
  | none => exact ignoresCache_throw _
  | some row =>
      dsimp only
      split
      · exact ignoresCache_throw_bind _ _
      · refine ignoresCache_now.bind fun time => ?_
        split
        · exact ignoresCache_throw_bind _ _
        · exact ignoresCache_pure row

theorem found_ignoresCache (what : Missing) (user? : Option User) :
    (Users.found what user?).IgnoresCache := by
  cases user? with
  | none => exact ignoresCache_throw _
  | some user => exact ignoresCache_pure user

theorem applyPasswordReset_ignoresCache (life : Lifetime) (payload : ResetApply) :
    (applyPasswordReset life payload).IgnoresCache :=
  ((useToken_ignoresCache _ _ _).bind fun _ => (ignoresCache_read _).bind fun _ =>
    (found_ignoresCache _ _).bind fun _ => (blind_replacePassword _ _ _).ignores).withSlot

theorem applyEmailVerification_ignoresCache (life : Lifetime) (payload : EmailVerifyApply) :
    (applyEmailVerification life payload).IgnoresCache :=
  ((useToken_ignoresCache _ _ _).bind fun _ => (ignoresCache_read _).bind fun _ =>
    (found_ignoresCache _ _).bind fun _ => (ignoresCache_write _).bind fun _ =>
      ignoresCache_now.bind fun _ => ignoresCache_write _).withSlot

end Credentials

namespace SignIn

theorem mint_ignoresCache (codec : SessionToken.Codec) (email : String) :
    (mint codec email).IgnoresCache := by
  unfold mint
  split
  · exact ignoresCache_pure _
  · exact ignoresCache_throw _

theorem withPassword_ignoresCache (codec : SessionToken.Codec) (payload : EmailIdentity) :
    (withPassword codec payload).IgnoresCache := by
  refine IgnoresCache.bind (IgnoresCache.withSlot ((ignoresCache_read _).bind fun identity? => ?_))
    fun email => mint_ignoresCache codec email
  cases identity? with
  | none => exact ignoresCache_throw _
  | some identity =>
      refine (Credentials.blind_isPassword _ _).ignores.bind fun same => ?_
      split
      · exact ignoresCache_throw_bind _ _
      · exact ignoresCache_now.bind fun _ => (ignoresCache_write _).bind fun _ =>
          ignoresCache_pure _

theorem fetchProfile_ignoresCache (providers : Providers) (provider : Provider) (token : String) :
    (fetchProfile providers provider token).IgnoresCache := by
  unfold fetchProfile
  split
  · exact ignoresCache_throw _
  · exact IgnoresCache.bind (fun _ _ => rfl) fun _ => ignoresCache_ofResult _

theorem createOrLink_relates (profile : Profile) :
    (createOrLink profile).Relates (fun _ => True) World.SameButCache
      (fun _ => World.SameButCache) := by
  refine (reconcile_ignoresCache profile).withSlot.relates.bind fun reconciled => ?_
  cases reconciled with
  | created userId =>
      exact (relates_invalidateRoles userId).bind fun _ => relates_pure fun _ _ hw => hw
  | _ => exact relates_pure fun _ _ hw => hw

theorem withProvider_relates (codec : SessionToken.Codec) (providers : Providers)
    (provider : Provider) (payload : ProviderOauth) :
    (withProvider codec providers provider payload).Relates (fun _ => True) World.SameButCache
      (fun _ => World.SameButCache) :=
  (fetchProfile_ignoresCache _ _ _).relates.bind fun profile =>
    (createOrLink_relates profile).bind fun email => (mint_ignoresCache codec email).relates

end SignIn

end Accounts
