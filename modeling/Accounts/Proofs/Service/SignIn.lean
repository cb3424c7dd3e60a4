import Accounts.Proofs.Payload
import Accounts.Proofs.Profile.Fetching
import Accounts.Proofs.Service.Credentials
import Accounts.Service.SignIn

/-!
# What signing in commits

Signing in with a password commits the time of it. Signing in with another provider's token commits
nothing where the identity is known, an identity where the user is, and a new user where nobody has
the address. The token is made behind the commit; where it cannot be made, the commit stays.
-/

namespace Accounts.SignIn

open Op Users
open Text (codesOf)

variable {w : World} {time : Int} {s : Store}

theorem ends_mint {codec : SessionToken.Codec} {email : String} {ok : String → World → Prop}
    {failed : Failure → World → Prop} :
    (mint codec email).Ends w ok failed ↔
      match codec.encode? email with
      | some token => ok token w
      | none => failed (.service (.tokenEncoding email)) w := by
  unfold mint
  cases codec.encode? email <;> rfl

/-! ## With a password -/

/-- A password passes for an address: the address is verified and has a user, and the password that
is stored for it is this one. -/
structure Passes (s : Store) (payload : EmailIdentity) (user : User) : Prop where
  found : s.users.get? user.id = some user
  email : user.email = payload.email
  password : ∃ identity, s.findIdentity payload.email .email = some identity
    ∧ Password.verify (identity.password.map (codesOf ·.toList)) (codesOf payload.password.toList)
      = .ok true

/-- A user who has just logged in. -/
def loggedInAt (time : Int) (user : User) : User :=
  { user with lastLoginAt := some (.utc time), updatedAt := .utc time }

/-- The world after a user logged in. -/
def loggedIn (w : World) (user : User) : World :=
  { w with store := w.store.putUser (loggedInAt w.now user) }

/-- Signing in lets whoever passes log in. Whoever does not is told so, and nothing changes. -/
theorem withPassword_ends (hs : w.store.Sound) (codec : SessionToken.Codec)
    (payload : EmailIdentity) :
    (withPassword codec payload).Ends w
      (fun token w' => codec.encode? payload.email = some token
        ∧ ∃ user, Passes w.store payload user ∧ w' = loggedIn w user)
      (fun failure w' => w.slots.isFree = false ∧ w' = w
        ∨ (∀ user, ¬Passes w.store payload user)
          ∧ failure = .service (.unauthenticated .credentials) ∧ w' = w
        ∨ codec.encode? payload.email = none
          ∧ ∃ user, Passes w.store payload user ∧ w' = loggedIn w user) := by
  unfold withPassword
  rw [ends_bind, ends_withSlot]
  split
  case isFalse hfree => exact Or.inl ⟨Bool.not_eq_true _ ▸ hfree, rfl⟩
  rw [ends_bind, ends_read]
  dsimp only
  cases hidentity : w.store.findIdentity payload.email .email with
  | none =>
      refine Or.inr (Or.inl ⟨fun user hpasses => ?_, rfl, rfl⟩)
      obtain ⟨identity, hfound, -⟩ := hpasses.password
      rw [hidentity] at hfound
      cases hfound
  | some identity =>
      have hemail : payload.email = identity.email :=
        (Prod.mk.inj (hs.identity_key hidentity)).1
      obtain ⟨before, hbefore, hsame, -⟩ := hs.identity_verified hidentity
      have hid : before.id = identity.userId := (hs.user_id hbefore).1
      refine (Credentials.ends_isPassword _ _).next ?_ ?_
      · rintro same _ ⟨hverify, rfl⟩
        refine ends_unless (fun hwrong => Or.inr (Or.inl ⟨fun user hpasses => ?_, rfl, rfl⟩))
          fun hright => ?_
        · obtain ⟨other, hother, hpass⟩ := hpasses.password
          rw [hidentity, Option.some_inj] at hother
          rw [← hother, hverify] at hpass
          rw [Except.ok.inj hpass] at hwrong
          cases hwrong
        · have hpass : same = true := by simpa using hright
          have hpasses : Passes w.store payload before :=
            ⟨by rw [hid, hbefore], hsame, identity, hidentity, hpass ▸ hverify⟩
          rw [ends_bind, ends_now, ends_bind, ends_write, Store.updateUser,
            Store.modifyUser_eq_ok hbefore]
          dsimp only
          rw [ends_pure, ends_mint, ← hid, ← hemail]
          cases codec.encode? payload.email with
          | none => exact Or.inr (Or.inr ⟨rfl, before, hpasses, rfl⟩)
          | some token => exact ⟨rfl, before, hpasses, rfl⟩
      · rintro failure _ ⟨hverify, -⟩
        obtain ⟨stored, hstored, hreadable⟩ :=
          (Prod.mk.inj (hs.identity_key hidentity)).2 ▸ hs.identity_password hidentity
        obtain ⟨same, hsame⟩ := hreadable _ (Text.isText_codesOf payload.password.toList)
        rw [hstored, Option.map_some, hsame] at hverify
        cases hverify

/-- The user of an address has logged in. -/
def LogsIn (email : String) (commit : Commit) : Prop :=
  ∃ before after, before.email = email ∧ commit = .revise before after

theorem withPassword_revises (hw : w.At time s) (hs : s.Sound) (codec : SessionToken.Codec)
    (payload : EmailIdentity) :
    (withPassword codec payload).Commits w time s
      (fun _ commit => LogsIn payload.email commit ∧ commit.Revises (loggedInAt time))
      (fun commit => commit = .nothing
        ∨ LogsIn payload.email commit ∧ commit.Revises (loggedInAt time)) := by
  have hlogsIn : ∀ {user}, Passes w.store payload user →
      ∃ commit, (LogsIn payload.email commit ∧ commit.Revises (loggedInAt time))
        ∧ (loggedIn w user).After time s commit := by
    intro user hpasses
    refine ⟨_, ⟨⟨user, loggedInAt w.now user, hpasses.email, rfl⟩,
      (Commit.revises_iff rfl).mpr (by rw [hw.now])⟩, ⟨hw.now, ?_, ?_⟩, ?_⟩
    · exact congrArg (Store.putUser · _) hw.store
    · exact hw.agrees.of_userRoles rfl
    · exact ⟨hw.store ▸ hpasses.found, rfl, rfl, fun h => h⟩
  refine (withPassword_ends (hw.store ▸ hs) codec payload).mono ?_ ?_
  · rintro token _ ⟨-, user, hpasses, rfl⟩
    exact hlogsIn hpasses
  · rintro failure _ (⟨-, rfl⟩ | ⟨-, -, rfl⟩ | ⟨-, user, hpasses, rfl⟩)
    · exact ⟨_, Or.inl rfl, hw.after⟩
    · exact ⟨_, Or.inl rfl, hw.after⟩
    · obtain ⟨commit, hcommit, hafter⟩ := hlogsIn hpasses
      exact ⟨commit, Or.inr hcommit, hafter⟩

theorem withPassword_commits (hw : w.At time s) (hs : s.Sound) (codec : SessionToken.Codec)
    (payload : EmailIdentity) :
    (withPassword codec payload).Commits w time s (fun _ => LogsIn payload.email)
      (fun commit => commit = .nothing ∨ LogsIn payload.email commit) :=
  (withPassword_revises hw hs codec payload).mono (fun _ _ _ h => h.1)
    fun _ _ h => h.imp_right And.left

/-- A commit stays where the token behind it cannot be made. -/
theorem commits_mint {op : Op String} {done failed : Commit → Prop} (codec : SessionToken.Codec)
    (h : op.Commits w time s (fun _ => done) failed) :
    (op >>= fun email => mint codec email).Commits w time s (fun _ => done)
      (fun commit => failed commit ∨ done commit) := by
  refine Ends.next h ?_ fun _ _ ⟨commit, hcommit, hafter⟩ => ⟨commit, Or.inl hcommit, hafter⟩
  rintro email w₁ ⟨commit, hcommit, hafter⟩
  rw [ends_mint]
  cases codec.encode? email with
  | none => exact ⟨commit, Or.inr hcommit, hafter⟩
  | some token => exact ⟨commit, hcommit, hafter⟩

/-! ## With another provider -/

/-- What a profile comes to in the store. -/
def Reconciles (profile : Profile) (commit : Commit) : Prop :=
  commit = .nothing
    ∨ (∃ before after identity, commit = .link before after identity
      ∧ identity.email = profile.email ∧ identity.provider = profile.provider)
    ∨ ∃ user identity role, commit = .enroll user identity role
      ∧ identity.email = profile.email ∧ identity.provider = profile.provider

theorem provider_eq (profile : Profile) :
    profile.provider = .google ∨ profile.provider = .facebook := by
  cases profile with
  | google => exact Or.inl rfl
  | facebook => exact Or.inr rfl

theorem provider_ne (profile : Profile) :
    profile.provider ≠ .email ∧ profile.provider ≠ .unverifiedEmail := by
  rcases provider_eq profile with h | h <;> rw [h] <;> exact ⟨by simp, by simp⟩

theorem merge_emailVerified (profile : Profile) (now : Timestamp) (user : User) :
    (profile.merge now user).emailVerified = none
      ∨ (profile.merge now user).emailVerified = some (some true) := by
  unfold Profile.merge
  dsimp only
  split
  · exact Or.inr rfl
  · exact Or.inl rfl

/-- What a reconciled profile has committed. -/
def Reached (profile : Profile) : Reconciled → Commit → Prop
  | .returning, commit => commit = .nothing
  | .linked, commit => ∃ before after identity, commit = .link before after identity
      ∧ identity.email = profile.email ∧ identity.provider = profile.provider
  | .created userId, commit => ∃ user identity role, commit = .enroll user identity role
      ∧ identity.email = profile.email ∧ identity.provider = profile.provider ∧ user.id = userId

/-- A user whose gaps a profile has filled. -/
def filledBy (profile : Profile) (time : Int) (user : User) : User :=
  Store.applyUpdate (.utc time) (profile.merge (.utc time) user) user

/-- The user who is made from a profile. -/
def userOf (profile : Profile) (id time : Int) (sagaId : JsonString) : User :=
  Store.userRow id (.utc time) sagaId profile.newUser

/-- The identity that a profile gives a user. -/
def identityOf (profile : Profile) (userId : Int) (sagaId : JsonString) : Identity :=
  ⟨userId, profile.email, none, profile.provider, sagaId⟩

/-- What a profile comes to in a store, and what that commits. -/
inductive Comes (s : Store) (time : Int) (profile : Profile) : Reconciled → Commit → Prop where
  | returning {identity : Identity}
      (known : s.identities.get? (profile.email, profile.provider) = some identity) :
      Comes s time profile .returning .nothing
  | linked {before : User} (sagaId : JsonString)
      (fresh : s.identities.get? (profile.email, profile.provider) = none)
      (found : s.findUserByEmail profile.email = some before) :
      Comes s time profile .linked
        (.link before (filledBy profile time before) (identityOf profile before.id sagaId))
  | created (sagaId : JsonString)
      (fresh : s.identities.get? (profile.email, profile.provider) = none)
      (unfound : s.findUserByEmail profile.email = none) :
      Comes s time profile (.created s.nextUserId)
        (.enroll (userOf profile s.nextUserId time sagaId)
          (identityOf profile s.nextUserId sagaId) ⟨s.nextRoleId, s.nextUserId, .user, .utc time⟩)

theorem Comes.reached {profile : Profile} {reconciled : Reconciled} {commit : Commit}
    (h : Comes s time profile reconciled commit) : Reached profile reconciled commit := by
  cases h with
  | returning known => rfl
  | linked sagaId fresh found => exact ⟨_, _, _, rfl, rfl, rfl⟩
  | created sagaId fresh unfound => exact ⟨_, _, _, rfl, rfl, rfl, rfl⟩

/-- A profile that was brought together with the store has an identity. -/
theorem Comes.identity {profile : Profile} {reconciled : Reconciled} {commit : Commit}
    (h : Comes s time profile reconciled commit) :
    ∃ identity, (commit.apply s).findIdentity profile.email profile.provider = some identity := by
  cases h with
  | returning known => exact ⟨_, known⟩
  | linked sagaId fresh found => exact ⟨_, Table.get?_put_self ..⟩
  | created sagaId fresh unfound => exact ⟨_, Table.get?_put_self ..⟩

theorem link_comes (hw : w.At time s) (hs : s.Sound) {profile : Profile} {user : User}
    (hfind : s.findUserByEmail profile.email = some user)
    (hfree : s.identities.get? (profile.email, profile.provider) = none) :
    (link profile user).Writes w time s (Comes s time profile) fun _ => False := by
  obtain ⟨huser, hemail⟩ := Store.findUserByEmail_eq_some hs hfind
  unfold link Writes
  rw [ends_bind, ends_now, ends_bind, ends_write, hw.store, hw.now, Store.updateUser,
    Store.modifyUser_eq_ok huser]
  unfold freshSagaId
  simp only [ends_bind, ends_get, ends_modify, ends_pure]
  rw [ends_write, Store.createIdentity_eq_ok]
  · exact ⟨_, .linked _ hfree hfind, rfl, rfl, hw.agrees,
      ⟨huser, Store.applyUpdate_continues (merge_emailVerified profile _ user)⟩, rfl, hemail.symm,
      hfree, (provider_ne profile).1, (provider_ne profile).2, rfl⟩
  · exact hfree

/-- Somebody has the address of a profile, or a user can be made from it: its names are texts. -/
def IsWelcome (s : Store) (profile : Profile) : Prop :=
  s.emailExists profile.email = true ∨ profile.newUser.IsNamed

instance (s : Store) (profile : Profile) : Decidable (IsWelcome s profile) :=
  inferInstanceAs (Decidable (_ ∨ _))

theorem createFrom_comes (hw : w.At time s) {profile : Profile}
    (haddress : Email.IsAddress profile.email)
    (hunfound : s.findUserByEmail profile.email = none)
    (hfresh : s.identities.get? (profile.email, profile.provider) = none) :
    (createFrom profile).Writes w time s (Comes s time profile)
      fun commit => commit = .nothing ∧ ¬IsWelcome s profile := by
  have hfree : s.emailExists profile.email = false := by
    rw [Store.emailExists_eq_isSome, hunfound]
    rfl
  by_cases hnamed : profile.newUser.IsNamed
  case neg =>
    have hrefused : ¬IsWelcome s profile :=
      not_or.mpr ⟨Bool.eq_false_iff.mp hfree, hnamed⟩
    unfold createFrom Writes
    rw [checkedUser_eq_crash hnamed]
    exact ⟨_, ⟨rfl, hrefused⟩, hw.ahead⟩
  have hchecked : checkedUser profile.newUser = pure profile.newUser :=
    checkedUser_eq_pure haddress.canonical hnamed
  have hcarries : profile.provider.Carries none := by
    rcases provider_eq profile with h | h <;> rw [h] <;> rfl
  unfold createFrom Writes
  rw [hchecked, pure_bind]
  refine (ends_sagaIdOr hw none).next ?_ fun _ _ h => h.elim
  intro sagaId w₁ hw₁
  rw [ends_bind, ends_now, ends_bind, ends_write, hw₁.store, hw₁.now,
    Store.createUser_eq_ok (p := profile.newUser) hfree]
  dsimp only
  rw [ends_bind, ends_write, Store.createIdentity_eq_ok]
  · exact ⟨_, .created sagaId hfresh hunfound, rfl, rfl, hw₁.agrees, rfl, hfree, haddress, rfl, rfl,
      (provider_ne profile).1, hcarries, rfl, rfl, rfl⟩
  · exact hfresh

theorem reconcile_comes (hw : w.At time s) (hs : s.Sound) {profile : Profile}
    (haddress : Email.IsAddress profile.email) :
    (reconcile profile).Writes w time s (Comes s time profile)
      fun commit => commit = .nothing ∧ ¬IsWelcome s profile := by
  unfold reconcile Writes
  rw [ends_bind, ends_read, hw.store]
  split
  · rename_i hexists
    obtain ⟨identity, hidentity⟩ := Table.has_eq_true.mp hexists
    exact ⟨_, .returning hidentity, hw.ahead⟩
  · rename_i hexists
    have hfresh : s.identities.get? (profile.email, profile.provider) = none :=
      Table.has_eq_false.mp (Bool.eq_false_iff.mpr hexists)
    rw [ends_bind, ends_read, hw.store]
    cases hfind : s.findUserByEmail profile.email with
    | none => exact createFrom_comes hw haddress hfind hfresh
    | some user =>
        exact (link_comes hw hs hfind hfresh).mono (fun _ _ h => h) fun _ _ ⟨_, h, _⟩ => h.elim

theorem reconcile_writes (hw : w.At time s) (hs : s.Sound) {profile : Profile}
    (haddress : Email.IsAddress profile.email) :
    (reconcile profile).Writes w time s (Reached profile) (· = .nothing) := by
  refine (reconcile_comes hw hs haddress).mono ?_ ?_
  · rintro reconciled w₁ ⟨commit, hcomes, hahead⟩
    exact ⟨commit, hcomes.reached, hahead⟩
  · rintro _ w₁ ⟨commit, ⟨hnothing, -⟩, hahead⟩
    exact ⟨commit, hnothing, hahead⟩

/-- A profile is answered with its address once the store has what it comes to. It is not answered
without a slot, nor if a user is to be made from it and cannot be. -/
theorem createOrLink_comes (hw : w.At time s) (hs : s.Sound) {profile : Profile}
    (haddress : Email.IsAddress profile.email) :
    (createOrLink profile).Commits w time s
      (fun email commit => email = profile.email
        ∧ ∃ reconciled, Comes s time profile reconciled commit)
      (fun commit => commit = .nothing ∧ (w.slots.isFree = false ∨ ¬IsWelcome s profile)) := by
  unfold createOrLink
  have hreconcile : (withSlot (reconcile profile)).Writes w time s (Comes s time profile)
      (fun commit => commit = .nothing ∧ (w.slots.isFree = false ∨ ¬IsWelcome s profile)) :=
    Writes.withSlot hw (fun w₁ hw₁ => Ends.mono (reconcile_comes hw₁ hs haddress)
      (fun _ _ h => h) fun _ _ ⟨commit, ⟨hnothing, hrefused⟩, hahead⟩ =>
        ⟨commit, ⟨hnothing, Or.inr hrefused⟩, hahead⟩)
      fun hbusy => ⟨rfl, Or.inl hbusy⟩
  refine Ends.next hreconcile ?_ ?_
  · rintro reconciled w₁ ⟨commit, hcomes, hahead⟩
    cases hcomes with
    | returning known => exact ⟨_, ⟨rfl, _, .returning known⟩, hahead.after rfl⟩
    | linked sagaId fresh found =>
        exact ⟨_, ⟨rfl, _, .linked sagaId fresh found⟩, hahead.after rfl⟩
    | created sagaId fresh unfound =>
        exact (ends_invalidateRoles hs hahead rfl).next
          (fun _ _ hafter => ⟨_, ⟨rfl, _, .created sagaId fresh unfound⟩, hafter⟩)
          fun _ _ h => h.elim
  · rintro _ w₁ ⟨commit, ⟨rfl, hwhy⟩, hahead⟩
    exact ⟨_, ⟨rfl, hwhy⟩, hahead.after rfl⟩

theorem Reached.reconciles {profile : Profile} {reconciled : Reconciled} {commit : Commit}
    (h : Reached profile reconciled commit) : Reconciles profile commit := by
  cases reconciled with
  | returning => exact Or.inl h
  | linked => exact Or.inr (Or.inl h)
  | created userId =>
      obtain ⟨user, identity, role, rfl, hemail, hprovider, -⟩ := h
      exact Or.inr (Or.inr ⟨_, _, _, rfl, hemail, hprovider⟩)

theorem createOrLink_commits (hw : w.At time s) (hs : s.Sound) {profile : Profile}
    (haddress : Email.IsAddress profile.email) :
    (createOrLink profile).Commits w time s
      (fun email commit => email = profile.email ∧ Reconciles profile commit) (· = .nothing) :=
  (createOrLink_comes hw hs haddress).mono
    (fun _ _ _ ⟨hemail, _, hcomes⟩ => ⟨hemail, hcomes.reached.reconciles⟩) fun _ _ h => h.1

/-- What a provider answers when it is asked for the profile behind a token. -/
def fetched (providers : Providers) (provider : Provider) (token : String) :
    Except Failure Profile :=
  match profileRequest providers provider token with
  | .error fault => .error (.crash fault)
  | .ok request => profileOfReply providers.depth provider (providers.reply request)

theorem isAddress_of_fetched {providers : Providers} {provider : Provider} {token : String}
    {profile : Profile} (h : fetched providers provider token = .ok profile) :
    Email.IsAddress profile.email := by
  unfold fetched at h
  split at h
  · cases h
  · obtain ⟨value, hprofile⟩ := (profileOfReply_eq_ok_iff.mp h).value
    exact Profile.isAddress_of_ofJson hprofile

theorem fetchProfile_ends (hw : w.At time s) (providers : Providers) (provider : Provider)
    (token : String) :
    (fetchProfile providers provider token).Ends w
      (fun profile w' => fetched providers provider token = .ok profile ∧ w'.At time s)
      (fun failure w' => fetched providers provider token = .error failure ∧ w'.At time s) := by
  unfold fetchProfile fetched
  cases profileRequest providers provider token with
  | error fault => exact ⟨rfl, hw⟩
  | ok request =>
      dsimp only
      rw [ends_bind, ends_modify, ends_ofResult]
      cases profileOfReply providers.depth provider (providers.reply request) with
      | error failure => exact ⟨rfl, hw.now, hw.store, hw.agrees⟩
      | ok profile => exact ⟨rfl, hw.now, hw.store, hw.agrees⟩

/-- Whoever gets a token for a profile has an identity by then. -/
theorem withProvider_ends (hw : w.At time s) (hs : s.Sound) (codec : SessionToken.Codec)
    (providers : Providers) (provider : Provider) (payload : ProviderOauth) :
    (withProvider codec providers provider payload).Ends w
      (fun token w' => ∃ profile, fetched providers provider payload.token = .ok profile
        ∧ codec.encode? profile.email = some token
        ∧ ∃ identity, w'.store.findIdentity profile.email profile.provider = some identity)
      (fun _ _ => True) := by
  unfold withProvider
  refine (fetchProfile_ends hw providers provider payload.token).next ?_ fun _ _ _ => trivial
  rintro profile w₁ ⟨hfetched, hw₁⟩
  refine Ends.next (createOrLink_comes hw₁ hs (isAddress_of_fetched hfetched)) ?_
    fun _ _ _ => trivial
  rintro _ w₂ ⟨commit, ⟨rfl, reconciled, hcomes⟩, hafter⟩
  rw [ends_mint]
  cases htoken : codec.encode? profile.email with
  | none => trivial
  | some token =>
      refine ⟨profile, hfetched, htoken, ?_⟩
      rw [hafter.at_apply.store]
      exact hcomes.identity

/-- What the fetched profile comes to in a store; nothing without one. -/
def ComesBy (s : Store) (time : Int) (providers : Providers) (provider : Provider) (token : String)
    (commit : Commit) : Prop :=
  commit = .nothing
    ∨ ∃ profile reconciled, fetched providers provider token = .ok profile
      ∧ Comes s time profile reconciled commit

theorem withProvider_comes (hw : w.At time s) (hs : s.Sound) (codec : SessionToken.Codec)
    (providers : Providers) (provider : Provider) (payload : ProviderOauth) :
    (withProvider codec providers provider payload).Commits w time s
      (fun _ => ComesBy s time providers provider payload.token)
      (ComesBy s time providers provider payload.token) := by
  unfold withProvider
  refine (fetchProfile_ends hw providers provider payload.token).next ?_
    fun _ _ h => ⟨_, Or.inl rfl, h.2.after⟩
  rintro profile w₁ ⟨hfetched, hw₁⟩
  refine Commits.mono (commits_mint codec (Commits.mono
    (createOrLink_comes hw₁ hs (isAddress_of_fetched hfetched))
    (fun _ _ _ ⟨_, reconciled, hcomes⟩ => Or.inr ⟨profile, reconciled, hfetched, hcomes⟩)
    fun _ _ h => h)) (fun _ _ _ h => h) ?_
  rintro commit - (⟨rfl, -⟩ | hcommit)
  · exact Or.inl rfl
  · exact hcommit

/-- What the fetched profile comes to; nothing without one. -/
def SignsInBy (providers : Providers) (provider : Provider) (token : String) (commit : Commit) :
    Prop :=
  commit = .nothing
    ∨ ∃ profile, fetched providers provider token = .ok profile ∧ Reconciles profile commit

theorem withProvider_commits (hw : w.At time s) (hs : s.Sound) (codec : SessionToken.Codec)
    (providers : Providers) (provider : Provider) (payload : ProviderOauth) :
    (withProvider codec providers provider payload).Commits w time s
      (fun _ => SignsInBy providers provider payload.token)
      (SignsInBy providers provider payload.token) := by
  have hby : ∀ {commit}, ComesBy s time providers provider payload.token commit →
      SignsInBy providers provider payload.token commit :=
    fun h => h.imp_right fun ⟨profile, _, hfetched, hcomes⟩ =>
      ⟨profile, hfetched, hcomes.reached.reconciles⟩
  exact (withProvider_comes hw hs codec providers provider payload).mono (fun _ _ _ => hby)
    fun _ _ => hby

end Accounts.SignIn
