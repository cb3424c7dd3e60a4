import Accounts.Proofs.Run

/-!
# What is stored of an address

A profile changes what is stored of its own address and nothing else. Ids and times apart, what it
makes of it is told by the profile and by what was there (`Account.meet`), whatever else is in the
store (`SignIn.Comes.account_self`, `SignIn.Comes.account_of_ne`).
-/

namespace Accounts

open Op SignIn

/-- A user apart from ids and times. -/
def User.bare (user : User) : User :=
  { user with
    id := 0
    lastLoginAt := user.lastLoginAt.map fun _ => .utc 0
    createdAt := .utc 0
    updatedAt := .utc 0
    sagaId := .text ""
    revokeBefore := .utc 0 }

/-- The address of the user with an id. -/
def Store.ownerOf (s : Store) (id : Int) : Option String := (s.findUser id).map (·.email)

/-- What is stored of an e-mail address apart from ids and times: the user, and for each provider
the owner and the password of the identity. -/
@[ext] structure Account where
  user : Option User
  identities : Provider → Option (Option String × Option String)

def Store.account (s : Store) (email : String) : Account where
  user := (s.findUserByEmail email).map (·.bare)
  identities provider := (s.findIdentity email provider).map fun identity =>
    (s.ownerOf identity.userId, identity.password)

/-- The user of an address once a profile was linked: with its gaps filled, or made from the
profile. -/
def Account.greet (account : Account) (profile : Profile) : User :=
  match account.user with
  | some user => (filledBy profile 0 user).bare
  | none => (userOf profile 0 0 (.text "")).bare

/-- What a profile makes of what is stored of its address. -/
def Account.meet (account : Account) (profile : Profile) : Account :=
  match account.identities profile.provider with
  | some _ => account
  | none =>
    { user := some (account.greet profile)
      identities :=
        Function.update account.identities profile.provider (some (some profile.email, none)) }

namespace Commit

variable {s : Store} {commit : Commit}

/-- Whoever owns something goes on owning it. -/
theorem ownerOf_apply (hs : s.Sound) (h : commit.Admissible s) {id : Int} {user : User}
    (huser : s.users.get? id = some user) :
    (commit.apply s).ownerOf id = s.ownerOf id := by
  obtain ⟨later, hlater, hcontinues⟩ := continues_apply hs h huser
  rw [Store.ownerOf, Store.ownerOf, Store.findUser, Store.findUser, huser, hlater, Option.map_some,
    Option.map_some, hcontinues.email]

/-- An identity that stays has the same owner. -/
theorem linked_apply (hs : s.Sound) (h : commit.Admissible s) {email : String}
    {provider : Provider}
    (hsame : (commit.apply s).findIdentity email provider = s.findIdentity email provider) :
    ((commit.apply s).account email).identities provider
      = (s.account email).identities provider := by
  simp only [Store.account, hsame]
  cases hidentity : s.findIdentity email provider with
  | none => rfl
  | some identity =>
      obtain ⟨user, huser, -⟩ := hs.identity_user hidentity
      rw [Option.map_some, Option.map_some, ownerOf_apply hs h huser]

/-- A commit for one address leaves alone what is stored of the others. -/
theorem account_apply (hs : s.Sound) (h : commit.Admissible s) {email : String}
    (hne : commit.email? ≠ some email) :
    (commit.apply s).account email = s.account email := by
  have hsame := sameAt_apply hs h hne
  refine Account.ext ?_ (funext fun provider => linked_apply hs h (hsame.identities provider))
  have hfind : (commit.apply s).findUserByEmail email = s.findUserByEmail email := by
    refine Option.ext fun user => ?_
    rw [Store.findUserByEmail_iff (sound_apply hs h), Store.findUserByEmail_iff hs]
    exact and_congr_left fun hemail => hsame.users user.id user hemail
  simp only [Store.account, hfind]

end Commit

/-! ## One profile -/

namespace SignIn

variable {s : Store} {time : Int} {profile : Profile} {reconciled : Reconciled} {commit : Commit}

/-- Filling gaps does not look at ids and times. -/
theorem bare_filledBy (profile : Profile) (time : Int) (user : User) :
    (filledBy profile time user).bare = (filledBy profile 0 user.bare).bare := rfl

theorem bare_userOf (profile : Profile) (id time : Int) (sagaId : JsonString) :
    (userOf profile id time sagaId).bare = (userOf profile 0 0 (.text "")).bare := rfl

/-- Identities of other providers stay as they are. -/
theorem Comes.findIdentity_of_ne (h : Comes s time profile reconciled commit) {provider : Provider}
    (hne : profile.provider ≠ provider) :
    (commit.apply s).findIdentity profile.email provider
      = s.findIdentity profile.email provider := by
  have hput : ∀ userId sagaId, (s.identities.put (profile.email, profile.provider)
      (identityOf profile userId sagaId)).get? (profile.email, provider)
        = s.identities.get? (profile.email, provider) := fun _ _ =>
    Table.get?_put_of_ne _ _ fun e => hne (Prod.mk.inj e).2
  unfold Store.findIdentity
  rw [Commit.identities_apply]
  cases h with
  | returning known => rfl
  | linked sagaId fresh found => exact hput _ _
  | created sagaId fresh unfound => exact hput _ _

/-- What is stored of an address whose user got an identity: the user as `Account.meet` says, and
the identity with this user as its owner. -/
theorem Comes.account_of_fresh (hs : s.Sound) (h : Comes s time profile reconciled commit)
    (hadmissible : commit.Admissible s)
    (hfresh : s.identities.get? (profile.email, profile.provider) = none) {user : User}
    (huser : (commit.apply s).users.get? user.id = some user) (hemail : user.email = profile.email)
    {sagaId : JsonString} (hidentity : (commit.apply s).findIdentity profile.email profile.provider
      = some (identityOf profile user.id sagaId))
    (hbare : user.bare = (s.account profile.email).greet profile) :
    (commit.apply s).account profile.email = (s.account profile.email).meet profile := by
  have hnone : (s.account profile.email).identities profile.provider = none := by
    simp only [Store.account, Store.findIdentity, hfresh, Option.map_none]
  have hfind := (Store.findUserByEmail_iff (Commit.sound_apply hs hadmissible)).mpr ⟨huser, hemail⟩
  unfold Account.meet
  rw [hnone]
  refine Account.ext ?_ (funext fun provider => ?_)
  · dsimp only
    rw [← hbare]
    simp only [Store.account, hfind, Option.map_some]
  · dsimp only
    by_cases hprovider : profile.provider = provider
    · subst hprovider
      simp only [Store.account, hidentity, Option.map_some, Function.update_self, identityOf,
        Store.ownerOf, Store.findUser, huser, hemail]
    · rw [Function.update_of_ne fun e => hprovider e.symm]
      exact Commit.linked_apply hs hadmissible (h.findIdentity_of_ne hprovider)

/-- A profile changes what is stored of its address as `Account.meet` says. -/
theorem Comes.account_self (hs : s.Sound) (h : Comes s time profile reconciled commit)
    (hadmissible : commit.Admissible s) :
    (commit.apply s).account profile.email = (s.account profile.email).meet profile := by
  cases h with
  | returning known =>
      unfold Account.meet
      simp only [Store.account, Store.findIdentity, known, Option.map_some]
      rfl
  | @linked before sagaId fresh found =>
      obtain ⟨hbefore, hemail⟩ := Store.findUserByEmail_eq_some hs found
      refine Comes.account_of_fresh hs (.linked sagaId fresh found) hadmissible fresh
        (Table.get?_put_self ..) hemail (Table.get?_put_self ..) ?_
      simp only [Account.greet, Store.account, found, Option.map_some]
      exact bare_filledBy profile time before
  | created sagaId fresh unfound =>
      refine Comes.account_of_fresh hs (.created sagaId fresh unfound) hadmissible fresh
        (Table.get?_put_self ..) rfl (Table.get?_put_self ..) ?_
      simp only [Account.greet, Store.account, unfound, Option.map_none]
      exact bare_userOf profile _ time sagaId

/-- A profile changes nothing of any other address. -/
theorem Comes.account_of_ne (hs : s.Sound) (h : Comes s time profile reconciled commit)
    (hadmissible : commit.Admissible s) {email : String} (hne : profile.email ≠ email) :
    (commit.apply s).account email = s.account email := by
  refine Commit.account_apply hs hadmissible ?_
  cases h with
  | returning known => simp [Commit.email?]
  | linked sagaId fresh found =>
      obtain ⟨-, hemail⟩ := Store.findUserByEmail_eq_some hs found
      exact fun e => hne (hemail.symm.trans (Option.some.inj e))
  | created sagaId fresh unfound => exact fun e => hne (Option.some.inj e)

end SignIn

end Accounts
