import Accounts.Proofs.Api.Commit

/-!
# Runs

A server starts with an empty store. What happens to it is a sequence of events: requests, calls of
its services by any caller, and what goes on around them — time passes, slots are held from outside,
and the supply of generated values is whatever it is. Nobody writes to the store directly. Between
events the store is sound, and the cache agrees with it.
-/

namespace Accounts

open Op

/-- A call of a service. Payloads were checked, so their addresses are canonical. -/
inductive Call where
  | getUser (caller : Caller) (id : Int)
  | currentUser (caller : Caller)
  | findUserBySagaId (caller : Caller) (sagaId : JsonString)
  | listUsers (caller : Caller) (fromId count : Int)
  | createUser (payload : NewIdentity) (address : Email.IsAddress payload.email)
  | updateUser (caller : Caller) (id : Int) (payload : UpdateProfile)
  | deactivateUser (caller : Caller) (id : Int)
  | revokeTokens (caller : Caller) (id : Int)
  | listRoles (caller : Caller) (userId : Int)
  | createRole (caller : Caller) (payload : NewUserRole)
  | createDefaultRole (caller : Caller) (userId : Int)
  | deleteRole (caller : Caller) (id : Int)
  | deleteRoles (caller : Caller) (userId : Int)
  | changePassword (caller : Caller) (payload : ChangeIdentityPassword)
  | requestPasswordReset (caller : Caller) (payload : ResetRequest)
  | applyPasswordReset (life : Credentials.Lifetime) (payload : ResetApply)
  | requestEmailVerification (caller : Caller) (payload : ResetRequest)
  | applyEmailVerification (life : Credentials.Lifetime) (payload : EmailVerifyApply)
  | signInWithPassword (codec : SessionToken.Codec) (payload : EmailIdentity)
  | signInWithProvider (codec : SessionToken.Codec) (providers : SignIn.Providers)
      (provider : Provider) (payload : ProviderOauth)
  | createOrLink (profile : Profile) (address : Email.IsAddress profile.email)

namespace Call

/-- What a call answers. -/
def Answer : Call → Type
  | getUser .. | currentUser .. | findUserBySagaId .. | createUser .. | updateUser ..
  | deactivateUser .. | revokeTokens .. | changePassword .. | applyPasswordReset ..
  | applyEmailVerification .. => User
  | listUsers .. => List User
  | createRole .. | createDefaultRole .. | deleteRole .. => UserRole
  | listRoles .. | deleteRoles .. => List UserRole
  | requestPasswordReset .. | requestEmailVerification .. => ResetToken
  | signInWithPassword .. | signInWithProvider .. | createOrLink .. => String

/-- The operation that a call is for. -/
def op : (call : Call) → Op call.Answer
  | getUser caller id => Users.get caller id
  | currentUser caller => Users.current caller
  | findUserBySagaId caller sagaId => Users.findBySagaId caller sagaId
  | listUsers caller fromId count => Users.list caller fromId count
  | createUser payload _ => Users.create payload
  | updateUser caller id payload => Users.update caller id payload
  | deactivateUser caller id => Users.deactivate caller id
  | revokeTokens caller id => Users.revokeTokens caller id
  | listRoles caller userId => Roles.list caller userId
  | createRole caller payload => Roles.create caller payload
  | createDefaultRole caller userId => Roles.createDefault caller userId
  | deleteRole caller id => Roles.delete caller id
  | deleteRoles caller userId => Roles.deleteAll caller userId
  | changePassword caller payload => Credentials.changePassword caller payload
  | requestPasswordReset caller payload => Credentials.requestPasswordReset caller payload
  | applyPasswordReset life payload => Credentials.applyPasswordReset life payload
  | requestEmailVerification caller payload =>
    Credentials.requestEmailVerification caller payload
  | applyEmailVerification life payload => Credentials.applyEmailVerification life payload
  | signInWithPassword codec payload => SignIn.withPassword codec payload
  | signInWithProvider codec providers provider payload =>
    SignIn.withProvider codec providers provider payload
  | createOrLink profile _ => SignIn.createOrLink profile

/-- What a call that was answered has committed. Where passwords or one-time tokens are written, it
is told by the answer. -/
def Done (w : World) : (call : Call) → call.Answer → Commit → Prop
  | createUser payload _, user, commit => Users.SignsUp payload user commit
  | changePassword caller payload, user, commit =>
    Credentials.ChangesPassword w.store caller payload user commit
  | requestPasswordReset caller payload, row, commit =>
    Credentials.Issues w.store caller payload .passwordReset row commit
  | applyPasswordReset life payload, user, commit =>
    Credentials.Resets w.store payload user commit
      ∧ Credentials.Accepts w life payload.token .passwordReset
  | requestEmailVerification caller payload, row, commit =>
    Credentials.Issues w.store caller payload .emailVerify row commit
  | applyEmailVerification life payload, user, commit =>
    Credentials.Verifies w.store payload.token user commit
      ∧ Credentials.Accepts w life payload.token .emailVerify
  | _, _, commit => commit.IsQuiet

/-- What a call that failed has committed. -/
def Failed (w : World) : Call → Commit → Prop
  | applyPasswordReset life payload, commit =>
    Credentials.Wastes w life payload.token .passwordReset commit
  | applyEmailVerification life payload, commit =>
    Credentials.Wastes w life payload.token .emailVerify commit
  | _, commit => commit.IsQuiet

variable {w : World}

theorem isQuiet_of_reconciles {profile : Profile} {commit : Commit}
    (h : SignIn.Reconciles profile commit) : commit.IsQuiet := by
  rcases h with rfl | ⟨before, after, identity, rfl, -, hprovider⟩ |
    ⟨user, identity, role, rfl, -, hprovider⟩
  · trivial
  · have hne := SignIn.provider_ne profile
    rw [← hprovider] at hne
    exact hne
  · have hne := SignIn.provider_ne profile
    rw [← hprovider] at hne
    exact hne

/-- Every call makes one commit. -/
theorem op_does (hw : w.At w.now w.store) (hs : w.store.Sound) (call : Call) :
    call.op.Commits w w.now w.store (call.Done w) (call.Failed w) := by
  have hnothing : ∀ {commit : Commit}, commit = .nothing → commit.IsQuiet := by
    rintro _ rfl
    trivial
  have hkeeps : ∀ {α : Type} {op : Op α}, op.Keeps w w.now w.store →
      op.Commits w w.now w.store (fun _ commit => commit.IsQuiet) (·.IsQuiet) :=
    fun h => h.commits.mono (fun _ _ _ h => hnothing h) fun _ _ h => hnothing h
  have hchanges : ∀ {caller action f} (user : User) (commit : Commit),
      Users.Changes w.store caller action f user commit → commit.IsQuiet := by
    rintro caller action f user _ ⟨before, -, -, rfl⟩
    trivial
  have hgrants : ∀ {caller payload} (role : UserRole) (commit : Commit),
      Roles.Grants w.store caller payload role commit → commit.IsQuiet := by
    rintro caller payload role _ ⟨-, -, -, rfl⟩
    trivial
  have hlogsIn : ∀ {email} {commit : Commit}, SignIn.LogsIn email commit → commit.IsQuiet := by
    rintro email _ ⟨before, after, -, rfl⟩
    trivial
  have hsigns : ∀ {providers provider token} {commit : Commit},
      SignIn.SignsInBy providers provider token commit → commit.IsQuiet := by
    rintro providers provider token commit (rfl | ⟨profile, -, hreconciles⟩)
    · trivial
    · exact isQuiet_of_reconciles hreconciles
  cases call with
  | getUser caller id => exact hkeeps (Users.get_keeps hw caller id)
  | currentUser caller => exact hkeeps (Users.current_keeps hw caller)
  | findUserBySagaId caller sagaId => exact hkeeps (Users.findBySagaId_keeps hw caller sagaId)
  | listUsers caller fromId count => exact hkeeps (Users.list_keeps hw caller fromId count)
  | createUser payload address =>
      exact (Users.create_commits hw hs address).mono (fun _ _ _ h => h) fun _ _ h => hnothing h
  | updateUser caller id payload =>
      exact (Users.update_commits hw hs caller id payload).mono
        (fun user commit _ h => hchanges user commit h) fun _ _ h => hnothing h
  | deactivateUser caller id =>
      exact (Users.deactivate_commits hw hs caller id).mono
        (fun user commit _ h => hchanges user commit h) fun _ _ h => hnothing h
  | revokeTokens caller id =>
      exact (Users.revokeTokens_commits hw hs caller id).mono
        (fun user commit _ h => hchanges user commit h) fun _ _ h => hnothing h
  | listRoles caller userId => exact hkeeps (Roles.list_keeps hw caller userId)
  | createRole caller payload =>
      exact (Roles.create_commits hw hs caller payload).mono
        (fun role commit _ h => hgrants role commit h) fun _ _ h => hnothing h
  | createDefaultRole caller userId =>
      exact (Roles.createDefault_commits hw hs caller userId).mono
        (fun role commit _ h => hgrants role commit h) fun _ _ h => hnothing h
  | deleteRole caller id =>
      refine (Roles.delete_commits hw hs caller id).mono ?_ fun _ _ h => hnothing h
      rintro role _ - ⟨-, rfl⟩
      trivial
  | deleteRoles caller userId =>
      refine (Roles.deleteAll_commits hw hs caller userId).mono ?_ fun _ _ h => hnothing h
      rintro roles _ - ⟨-, rfl⟩
      trivial
  | changePassword caller payload =>
      exact (Credentials.changePassword_commits hw hs caller payload).mono (fun _ _ _ h => h)
        fun _ _ h => hnothing h
  | requestPasswordReset caller payload =>
      exact (Credentials.requestPasswordReset_commits hw hs caller payload).mono
        (fun _ _ _ h => h) fun _ _ h => hnothing h
  | applyPasswordReset life payload =>
      exact Credentials.applyPasswordReset_commits hw hs life payload
  | requestEmailVerification caller payload =>
      exact (Credentials.requestEmailVerification_commits hw hs caller payload).mono
        (fun _ _ _ h => h) fun _ _ h => hnothing h
  | applyEmailVerification life payload =>
      exact Credentials.applyEmailVerification_commits hw hs life payload
  | signInWithPassword codec payload =>
      exact (SignIn.withPassword_commits hw hs codec payload).mono (fun _ _ _ h => hlogsIn h)
        fun _ _ h => h.elim hnothing hlogsIn
  | signInWithProvider codec providers provider payload =>
      exact (SignIn.withProvider_commits hw hs codec providers provider payload).mono
        (fun _ _ _ h => hsigns h) fun _ _ h => hsigns h
  | createOrLink profile address =>
      exact (SignIn.createOrLink_commits hw hs address).mono
        (fun _ _ _ h => isQuiet_of_reconciles h.2) fun _ _ h => hnothing h

end Call

/-- What happens to a server. -/
inductive Event where
  | request (setup : Api.Setup) (request : Http.Request)
  | call (call : Call)
  /-- Time passes, or is set, and the surroundings change. -/
  | meanwhile (now : Int) (slots : Slots) (supply : Supply) (requests : List ProviderRequest)

namespace World

/-- The world after an event. -/
def step (w : World) : Event → World
  | .request setup request => (Session.exchange setup request w).2
  | .call call => (call.op.exec w).2
  | .meanwhile now slots supply requests =>
    { w with now := now, slots := slots, supply := supply, requests := requests }

/-- The world after a run. -/
def run (w : World) (events : List Event) : World := events.foldl step w

theorem run_concat (w : World) (events : List Event) (event : Event) :
    w.run (events ++ [event]) = (w.run events).step event := by
  rw [run, List.foldl_append]
  rfl

/-- Nothing is stored, and nothing is cached. -/
structure IsInitial (w : World) : Prop where
  store : w.store = .empty
  cache : w.cache.entries = []

/-- A world that some run from the start leads to. -/
def Reachable (w : World) : Prop := ∃ start events, IsInitial start ∧ w = start.run events

theorem Reachable.initial {w : World} (h : w.IsInitial) : w.Reachable := ⟨w, [], h, rfl⟩

theorem Reachable.step {w : World} (h : w.Reachable) (event : Event) :
    (w.step event).Reachable := by
  obtain ⟨start, events, hstart, rfl⟩ := h
  exact ⟨start, events ++ [event], hstart, (run_concat ..).symm⟩

/-- Every session starts in such a world. -/
theorem isInitial_of_start {settings : Settings} {randoms : List Nat} {w : World}
    (h : Session.start settings randoms = .ok w) : w.IsInitial := by
  unfold Session.start at h
  split at h
  · cases h
  · cases h
    exact ⟨rfl, rfl⟩

/-- What holds of the world between events. -/
structure Settled (w : World) : Prop where
  sound : w.store.Sound
  agrees : w.cache.Agrees w.store

variable {w : World}

theorem Settled.at_store (h : w.Settled) : w.At w.now w.store := ⟨rfl, rfl, h.agrees⟩

theorem After.settled {w' : World} {time : Int} {s : Store} {commit : Commit} (hs : s.Sound)
    (h : w'.After time s commit) : w'.Settled := by
  have hsound := Commit.sound_apply hs h.admissible
  rw [← h.at_apply.store] at hsound
  exact ⟨hsound, h.at_apply.store.symm ▸ h.at_apply.agrees⟩

theorem IsInitial.settled (h : w.IsInitial) : w.Settled where
  sound := h.store ▸ Store.sound_empty
  agrees entry hmem := by
    rw [h.cache] at hmem
    cases hmem

/-- A step of a settled world is a commit or leaves the store alone, and it leads to a settled
world. -/
theorem Settled.step (h : w.Settled) (event : Event) : (w.step event).Settled := by
  cases event with
  | request setup request =>
      obtain ⟨commit, -, hafter⟩ := Api.exchange_commits h.at_store h.sound setup request
      exact hafter.settled h.sound
  | call call =>
      have hcommits := call.op_does h.at_store h.sound
      unfold Commits Ends at hcommits
      rw [World.step]
      revert hcommits
      rcases call.op.exec w with ⟨failure | value, w'⟩
      · exact fun ⟨_, _, hafter⟩ => hafter.settled h.sound
      · exact fun ⟨_, _, hafter⟩ => hafter.settled h.sound
  | meanwhile now slots supply requests => exact ⟨h.sound, h.agrees⟩

theorem Settled.run (h : w.Settled) (events : List Event) : (w.run events).Settled := by
  induction events generalizing w with
  | nil => exact h
  | cons event rest ih => exact ih (h.step event)

/-- Between events, the store is sound and the cache agrees with it. -/
theorem Reachable.settled (h : w.Reachable) : w.Settled := by
  obtain ⟨start, events, hstart, rfl⟩ := h
  exact hstart.settled.run events

end World

/-! ## What the tables promise each other -/

/-- **The store is consistent between events.** Users are known by their ids and by their addresses.
An identity stands under its address and provider and names the user who has that address, and every
user has one. An address has a verified password or one that waits for verification, not both; what
stands in a password's place can be checked, and providers leave the place empty. Who has a verified
password is marked as verified. A one-time token stands under its address and type, and there is the
identity that it acts on. -/
theorem consistency {w : World} (h : w.Reachable) :
    (∀ id user, w.store.users.get? id = some user →
        user.id = id ∧ 0 < id ∧ id < w.store.nextUserId)
      ∧ (∀ id id' user user', w.store.users.get? id = some user →
        w.store.users.get? id' = some user' → user.email = user'.email → id = id')
      ∧ (∀ key identity, w.store.identities.get? key = some identity →
        key = (identity.email, identity.provider)
          ∧ ∃ user, w.store.users.get? identity.userId = some user
            ∧ user.email = identity.email)
      ∧ (∀ id user, w.store.users.get? id = some user →
        ∃ key identity, w.store.identities.get? key = some identity ∧ identity.userId = id)
      ∧ (∀ email, w.store.identities.get? (email, .email) = none
        ∨ w.store.identities.get? (email, .unverifiedEmail) = none)
      ∧ (∀ key identity, w.store.identities.get? key = some identity →
        ((identity.provider = .email ∨ identity.provider = .unverifiedEmail) →
          ∃ stored, identity.password = some stored ∧ Password.Readable stored)
        ∧ ((identity.provider = .google ∨ identity.provider = .facebook) →
          identity.password = none))
      ∧ (∀ email identity, w.store.identities.get? (email, .email) = some identity →
        ∃ user, w.store.users.get? identity.userId = some user ∧ user.email = email
          ∧ user.emailVerified = some true)
      ∧ (∀ key row, w.store.resetTokens.get? key = some row → key = (row.email, row.tokenType)
        ∧ (row.tokenType = .emailVerify →
          ∃ identity, w.store.identities.get? (row.email, .unverifiedEmail) = some identity)
        ∧ (row.tokenType = .passwordReset →
          ∃ identity, w.store.identities.get? (row.email, .email) = some identity))
      ∧ (∀ id role, w.store.userRoles.get? id = some role →
        role.id = id ∧ 0 < id ∧ id < w.store.nextRoleId) := by
  have hs := h.settled.sound
  refine ⟨fun id user huser => hs.user_id huser,
    fun id id' user user' huser huser' hemail => hs.user_distinct huser huser' hemail,
    fun key identity hidentity => ⟨hs.identity_key hidentity, hs.identity_user hidentity⟩,
    fun id user huser => hs.user_identity huser, fun email => ?_,
    fun key identity hidentity => ?_,
    fun email identity hidentity => hs.identity_verified hidentity,
    fun key row hrow => ⟨hs.token_key hrow, ?_⟩, fun id role hrole => hs.role_id hrole⟩
  · cases hverified : w.store.identities.get? (email, .email) with
    | none => exact Or.inl rfl
    | some identity => exact Or.inr (hs.identity_exclusive hverified)
  · have hcarries := hs.identity_password hidentity
    refine ⟨fun hprovider => ?_, fun hprovider => ?_⟩
    · rcases hprovider with hprovider | hprovider <;> rw [hprovider] at hcarries <;>
        exact hcarries
    · rcases hprovider with hprovider | hprovider <;> rw [hprovider] at hcarries <;>
        exact hcarries
  · have hidentity := hs.token_identity hrow
    refine ⟨fun htype => ?_, fun htype => ?_⟩ <;> rw [htype] at hidentity <;> exact hidentity

/-- Whoever is made from a profile has the address of the identity, also where the provider had
written it in another way. -/
theorem consistency_of_link :
    let address : Email.IsAddress "marketing@example.com" :=
      ⟨"mar\u212aeting@example.com", by decide +kernel⟩
    let profile := Profile.google (.text "7") "marketing@example.com" none none none none true
    let start : World := ⟨0, .empty, .empty 600 0, ⟨1, 0, true⟩, .start [], []⟩
    let w := start.step (.call (.createOrLink profile address))
    w.Reachable ∧ (w.store.identities.get? ("marketing@example.com", .google)).isSome
      ∧ ∀ identity, w.store.identities.get? ("marketing@example.com", .google) = some identity →
        ∃ user, w.store.users.get? identity.userId = some user
          ∧ user.email = "marketing@example.com" := by
  intro address profile start w
  have hw : w.Reachable := (World.Reachable.initial ⟨rfl, rfl⟩).step _
  refine ⟨hw, by decide +kernel, fun identity hidentity => ?_⟩
  obtain ⟨hkey, user, huser, hemail⟩ := (consistency hw).2.2.1 _ identity hidentity
  exact ⟨user, huser, hemail.trans (Prod.mk.inj hkey).1.symm⟩

end Accounts
