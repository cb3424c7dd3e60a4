import Accounts.Proofs.Store.Sound

/-!
# Commits

What an operation does to the store is one of a dozen commits, each a whole: an operation that
fails has done nothing, or it has taken a one-time token and nothing else. A commit carries the
rows it writes and, where it replaces one, the row from before.

`Admissible` is what the services have checked by the time they commit. Admissible commits keep
sound stores sound, and all that is known of a commit's reach — whose rows it touches, what it does
to role grants — is read off the commit, not off the service.
-/

namespace Accounts

/-- What a whole operation does to the store. -/
inductive Commit where
  | nothing
  /-- A user's row is replaced. -/
  | revise (before after : User)
  /-- A new user comes with an identity and a role. -/
  | enroll (user : User) (identity : Identity) (role : UserRole)
  /-- A user gets another identity. -/
  | link (before after : User) (identity : Identity)
  /-- A user's identity gets another password. -/
  | repassword (before after : User) (identity : Identity)
  | issue (user : User) (row : ResetToken)
  | consume (row : ResetToken)
  /-- A token is taken for another password. -/
  | reset (row : ResetToken) (before after : User) (identity : Identity)
  /-- A token is taken for the verification of an identity. -/
  | verify (row : ResetToken) (before after : User) (identity : Identity)
  | grant (role : UserRole)
  | revoke (role : UserRole)
  | revokeAll (userId : Int)

namespace Commit

/-- The store after a commit. -/
def apply (s : Store) : Commit → Store
  | nothing => s
  | revise _ after => s.putUser after
  | enroll user identity role =>
    { (s.putUser user).putIdentity identity with
      userRoles := s.userRoles.put role.id role
      nextUserId := s.nextUserId + 1
      nextRoleId := s.nextRoleId + 1 }
  | link _ after identity | repassword _ after identity => (s.putUser after).putIdentity identity
  | issue _ row => { s with resetTokens := s.resetTokens.put (row.email, row.tokenType) row }
  | consume row => s.eraseToken row
  | reset row _ after identity => ((s.eraseToken row).putUser after).putIdentity identity
  | verify row _ after identity => ((s.eraseToken row).putUser after).verifyIdentity identity
  | grant role =>
    { s with userRoles := s.userRoles.put role.id role, nextRoleId := s.nextRoleId + 1 }
  | revoke role => { s with userRoles := s.userRoles.erase role.id }
  | revokeAll userId => { s with userRoles := s.userRoles.filter (·.2.userId != userId) }

/-- A row of the store and one that may replace it. -/
structure Replaces (s : Store) (before after : User) : Prop where
  found : s.users.get? before.id = some before
  continues : after.Continues before

/-- An identity of the store that gets another password. -/
structure Repasswords (s : Store) (before : User) (identity : Identity) : Prop where
  email : before.email = identity.email
  found : ∃ old stored, s.identities.get? (identity.email, .email) = some old
    ∧ identity = { old with password := some stored } ∧ Password.Readable stored

/-- What has been checked of a commit. -/
def Admissible (s : Store) : Commit → Prop
  | nothing => True
  | revise before after => Replaces s before after
  | enroll user identity role =>
    user.id = s.nextUserId ∧ s.emailExists user.email = false
      ∧ Email.IsAddress user.email ∧ user.email = identity.email ∧ identity.userId = user.id
      ∧ identity.provider ≠ .email ∧ identity.provider.Carries identity.password
      ∧ role.id = s.nextRoleId ∧ role.userId = user.id ∧ role.role = .user
  | link before after identity =>
    Replaces s before after ∧ identity.userId = before.id ∧ identity.email = before.email
      ∧ s.identities.get? (identity.email, identity.provider) = none
      ∧ identity.provider ≠ .email ∧ identity.provider ≠ .unverifiedEmail
      ∧ identity.password = none
  | repassword before after identity => Replaces s before after ∧ Repasswords s before identity
  | issue user row =>
    s.users.get? user.id = some user ∧ row.email = user.email
      ∧ ∃ identity, s.identities.get? (row.email, row.tokenType.provider) = some identity
  | consume row => s.resetTokens.get? (row.email, row.tokenType) = some row
  | reset row before after identity =>
    s.resetTokens.get? (row.email, row.tokenType) = some row ∧ row.tokenType = .passwordReset
      ∧ row.email = before.email ∧ Replaces s before after ∧ Repasswords s before identity
  | verify row before after identity =>
    s.resetTokens.get? (row.email, row.tokenType) = some row ∧ row.tokenType = .emailVerify
      ∧ row.email = before.email ∧ Replaces s before after ∧ after.emailVerified = some true
      ∧ before.email = identity.email
      ∧ s.identities.get? (identity.email, .unverifiedEmail) = some identity
      ∧ s.identities.get? (identity.email, .email) = none
  | grant role => role.id = s.nextRoleId
  | revoke role => s.userRoles.get? role.id = some role
  | revokeAll _ => True

/-! ## Soundness -/

variable {s : Store}

theorem Repasswords.admits {before : User} {identity : Identity} (hs : s.Sound)
    (h : Repasswords s before identity) : s.Admits identity := by
  obtain ⟨old, stored, hold, rfl, hstored⟩ := h.found
  have hprovider : Provider.email = old.provider := (Prod.mk.inj (hs.identity_key hold)).2
  exact {
    user := by
      obtain ⟨owner, howner, hemail⟩ := hs.identity_user hold
      exact ⟨owner, howner, hemail⟩
    carries := by
      rw [← hprovider]
      exact ⟨stored, rfl, hstored⟩
    keeps := fun other hother => by
      rw [← hprovider, hold] at hother
      rw [Option.some.inj hother]
    unverified := fun h => nomatch hprovider.trans h
    verified := fun _ => by
      obtain ⟨owner, howner, hemail⟩ := hs.identity_verified hold
      exact ⟨hs.identity_exclusive hold, owner, howner, hemail⟩ }

theorem sound_repassword {before after : User} {identity : Identity} (hs : s.Sound)
    (hreplaces : Replaces s before after) (h : Repasswords s before identity) :
    ((s.putUser after).putIdentity identity).Sound :=
  (hs.putIdentity (h.admits hs)).putUser hreplaces.found hreplaces.continues

theorem sound_putRole (hs : s.Sound) {role : UserRole} (hid : role.id = s.nextRoleId) :
    Store.Sound { s with
      userRoles := s.userRoles.put role.id role, nextRoleId := s.nextRoleId + 1 } := by
  have hpos := hs.nextRoleId_pos
  refine hs.withRoles (hs.roles_unique.put _ _) (by omega) fun {id found} h => ?_
  rcases Table.get?_put_cases h with ⟨rfl, rfl⟩ | ⟨-, hold⟩
  · omega
  · have := hs.role_id hold
    omega

/-- Admissible commits keep sound stores sound. -/
theorem sound_apply (hs : s.Sound) {commit : Commit} (h : commit.Admissible s) :
    (commit.apply s).Sound := by
  cases commit with
  | nothing => exact hs
  | revise before after => exact hs.putUser h.found h.continues
  | enroll user identity role =>
      obtain ⟨hid, hfree, haddress, hemail, hown, hprovider, hcarries, hrole, -⟩ := h
      exact sound_putRole (hs.enroll hid hfree haddress hemail hown hprovider hcarries) hrole
  | link before after identity =>
      obtain ⟨hreplaces, hown, hemail, hfree, hnotEmail, hnotUnverified, hpassword⟩ := h
      refine Store.Sound.putUser (hs.putIdentity ?_) hreplaces.found hreplaces.continues
      exact {
        user := ⟨before, hown ▸ hreplaces.found, hemail.symm⟩
        carries := by
          rw [hpassword]
          cases hp : identity.provider with
          | email => exact absurd hp hnotEmail
          | unverifiedEmail => exact absurd hp hnotUnverified
          | google => rfl
          | facebook => rfl
        keeps := fun old hold => by rw [hfree] at hold; cases hold
        unverified := fun hp => absurd hp hnotUnverified
        verified := fun hp => absurd hp hnotEmail }
  | repassword before after identity => exact sound_repassword hs h.1 h.2
  | issue user row =>
      obtain ⟨huser, hemail, identity, hidentity⟩ := h
      exact hs.putToken huser hemail.symm hidentity
  | consume row => exact hs.eraseToken row
  | reset row before after identity =>
      obtain ⟨-, -, -, hreplaces, hrepasswords⟩ := h
      exact sound_repassword (hs.eraseToken row) ⟨hreplaces.found, hreplaces.continues⟩
        ⟨hrepasswords.email, hrepasswords.found⟩
  | verify row before after identity =>
      obtain ⟨-, htype, hrow, hreplaces, hverified, hemail, hget, hfree⟩ := h
      have hsound := (hs.eraseToken row).putUser hreplaces.found hreplaces.continues
      obtain ⟨owner, howner, howned⟩ := hs.identity_user hget
      have hsame := hs.user_distinct howner hreplaces.found (howned.trans hemail.symm)
      have hafter : ((s.eraseToken row).putUser after).users.get? identity.userId = some after := by
        rw [hsame, ← hreplaces.continues.id]
        exact Table.get?_put_self ..
      refine hsound.verifyIdentity hget hfree hafter (hreplaces.continues.email.trans hemail)
        hverified ?_
      rw [← hemail, ← hrow, ← htype]
      exact Table.get?_erase_self ..
  | grant role => exact sound_putRole hs h
  | revoke role =>
      exact hs.withRoles (hs.roles_unique.erase _) hs.nextRoleId_pos fun hget =>
        hs.role_id (Table.get?_of_get?_erase hget).2
  | revokeAll userId =>
      refine hs.withRoles (hs.roles_unique.filter _) hs.nextRoleId_pos fun hget => ?_
      rw [hs.roles_unique.get?_filter, Option.filter_eq_some_iff] at hget
      exact hs.role_id hget.1

/-! ## Whose rows a commit touches -/

/-- The address whose rows a commit touches, role grants apart. -/
def email? : Commit → Option String
  | nothing | grant _ | revoke _ | revokeAll _ => none
  | revise before _ | link before _ _ | repassword before _ _ => some before.email
  | enroll _ identity _ => some identity.email
  | issue _ row | consume row | reset row _ _ _ | verify row _ _ _ => some row.email

/-- The user that a commit makes. -/
def newUser? : Commit → Option User
  | enroll user _ _ => some user
  | _ => none

/-- The role that a commit grants as such. -/
def granted? : Commit → Option UserRole
  | grant role => some role
  | _ => none

/-- The row that a commit replaces, and what it puts there. -/
def revision? : Commit → Option (User × User)
  | revise before after | link before after _ | repassword before after _
  | reset _ before after _ | verify _ before after _ => some (before, after)
  | _ => none

/-- Whatever row a commit replaces, it puts what `f` makes of it. -/
def Revises (f : User → User) (commit : Commit) : Prop :=
  ∀ before after, commit.revision? = some (before, after) → after = f before

theorem revises_iff {f : User → User} {commit : Commit} {before after : User}
    (h : commit.revision? = some (before, after)) : commit.Revises f ↔ after = f before := by
  refine ⟨fun hrevises => hrevises _ _ h, fun hafter old new hrevision => ?_⟩
  rw [h] at hrevision
  cases hrevision
  exact hafter

/-- Everything of one address is the same in two stores, role grants apart. -/
structure SameAt (email : String) (s s' : Store) : Prop where
  users : ∀ id user, user.email = email →
    (s'.users.get? id = some user ↔ s.users.get? id = some user)
  identities : ∀ provider,
    s'.identities.get? (email, provider) = s.identities.get? (email, provider)
  tokens : ∀ tokenType,
    s'.resetTokens.get? (email, tokenType) = s.resetTokens.get? (email, tokenType)

variable {email : String}

theorem SameAt.refl (email : String) (s : Store) : SameAt email s s :=
  ⟨fun _ _ _ => Iff.rfl, fun _ => rfl, fun _ => rfl⟩

theorem SameAt.trans {s' s'' : Store} (h : SameAt email s s') (h' : SameAt email s' s'') :
    SameAt email s s'' :=
  ⟨fun id user he => (h'.users id user he).trans (h.users id user he),
    fun provider => (h'.identities provider).trans (h.identities provider),
    fun tokenType => (h'.tokens tokenType).trans (h.tokens tokenType)⟩

theorem sameAt_putUser {before after : User} (h : Replaces s before after)
    (hne : before.email ≠ email) : SameAt email s (s.putUser after) where
  users id user he := by
    rw [Store.putUser, Table.get?_put]
    split
    · rename_i hid
      rw [← hid, h.continues.id, h.found, Option.some_inj, Option.some_inj]
      exact ⟨fun e => absurd (by rw [← he, ← e, h.continues.email]) hne,
        fun e => absurd (by rw [← he, ← e]) hne⟩
    · rfl
  identities _ := rfl
  tokens _ := rfl

theorem sameAt_putIdentity {identity : Identity} (hne : identity.email ≠ email) :
    SameAt email s (s.putIdentity identity) where
  users _ _ _ := Iff.rfl
  identities _ := Table.get?_put_of_ne _ _ fun e => hne (Prod.mk.inj e).1
  tokens _ := rfl

theorem sameAt_verifyIdentity {identity : Identity} (hne : identity.email ≠ email) :
    SameAt email s (s.verifyIdentity identity) where
  users _ _ _ := Iff.rfl
  identities _ := by
    rw [Store.verifyIdentity, Table.get?_put_of_ne _ _ fun e => hne (Prod.mk.inj e).1,
      Table.get?_erase_of_ne _ fun e => hne (Prod.mk.inj e).1]
  tokens _ := rfl

theorem sameAt_eraseToken {row : ResetToken} (hne : row.email ≠ email) :
    SameAt email s (s.eraseToken row) where
  users _ _ _ := Iff.rfl
  identities _ := rfl
  tokens _ := Table.get?_erase_of_ne _ fun e => hne (Prod.mk.inj e).1

/-- A commit leaves alone whatever does not belong to its address. -/
theorem sameAt_apply (hs : s.Sound) {commit : Commit} (h : commit.Admissible s)
    (hne : commit.email? ≠ some email) : SameAt email s (commit.apply s) := by
  have hemail : ∀ {other}, commit.email? = some other → other ≠ email := by
    rintro other hother rfl
    exact hne hother
  cases commit with
  | nothing => exact SameAt.refl email s
  | revise before after => exact sameAt_putUser h (hemail rfl)
  | enroll user identity role =>
      obtain ⟨hid, -, -, hown, -⟩ := h
      have huser : SameAt email s (s.putUser user) := by
        refine ⟨fun id other he => ?_, fun _ => rfl, fun _ => rfl⟩
        rw [Store.putUser, Table.get?_put]
        split
        · refine ⟨fun e => absurd (by rw [← he, ← Option.some.inj e, hown]) (hemail rfl),
            fun hget => ?_⟩
          have := (hs.user_id hget).2.2
          omega
        · rfl
      have hidentity : SameAt email (s.putUser user) ((s.putUser user).putIdentity identity) :=
        sameAt_putIdentity (hemail rfl)
      exact huser.trans ⟨hidentity.users, hidentity.identities, hidentity.tokens⟩
  | link before after identity =>
      obtain ⟨hreplaces, -, hidentity, -⟩ := h
      exact (sameAt_putUser hreplaces (hemail rfl)).trans
        (sameAt_putIdentity (hidentity ▸ hemail rfl))
  | repassword before after identity =>
      exact (sameAt_putUser h.1 (hemail rfl)).trans
        (sameAt_putIdentity (h.2.email ▸ hemail rfl))
  | issue user row =>
      exact ⟨fun _ _ _ => Iff.rfl, fun _ => rfl, fun _ =>
        Table.get?_put_of_ne _ _ fun e => hemail rfl (Prod.mk.inj e).1⟩
  | consume row => exact sameAt_eraseToken (hemail rfl)
  | reset row before after identity =>
      obtain ⟨-, -, hrow, hreplaces, hrepasswords⟩ := h
      have hbefore : before.email ≠ email := hrow ▸ hemail rfl
      exact ((sameAt_eraseToken (hemail rfl)).trans
        (sameAt_putUser ⟨hreplaces.found, hreplaces.continues⟩ hbefore)).trans
        (sameAt_putIdentity (hrepasswords.email ▸ hbefore))
  | verify row before after identity =>
      obtain ⟨-, -, hrow, hreplaces, -, hidentity, -⟩ := h
      have hbefore : before.email ≠ email := hrow ▸ hemail rfl
      exact ((sameAt_eraseToken (hemail rfl)).trans
        (sameAt_putUser ⟨hreplaces.found, hreplaces.continues⟩ hbefore)).trans
        (sameAt_verifyIdentity (hidentity ▸ hbefore))
  | grant role => exact ⟨fun _ _ _ => Iff.rfl, fun _ => rfl, fun _ => rfl⟩
  | revoke role => exact ⟨fun _ _ _ => Iff.rfl, fun _ => rfl, fun _ => rfl⟩
  | revokeAll userId => exact ⟨fun _ _ _ => Iff.rfl, fun _ => rfl, fun _ => rfl⟩

/-- The row of a new user was not there before, and it has the commit's address. -/
theorem newUser?_spec (hs : s.Sound) {commit : Commit} (h : commit.Admissible s) {user : User}
    (hnew : commit.newUser? = some user) :
    s.users.get? user.id = none ∧ (commit.apply s).users.get? user.id = some user
      ∧ commit.email? = some user.email := by
  cases commit with
  | enroll other identity role =>
      obtain rfl := Option.some.inj hnew
      obtain ⟨hid, -, -, hemail, -⟩ := h
      refine ⟨Option.eq_none_iff_forall_ne_some.mpr fun found hfound => ?_,
        Table.get?_put_self .., congrArg some hemail.symm⟩
      have := (hs.user_id hfound).2.2
      omega
  | _ => cases hnew

/-- A row that was not there before is a new user's. -/
theorem newUser?_eq_some {commit : Commit} (h : commit.Admissible s) {id : Int} {user : User}
    (hbefore : s.users.get? id = none) (hafter : (commit.apply s).users.get? id = some user) :
    commit.newUser? = some user := by
  have hreplaced : ∀ {before after : User}, Replaces s before after →
      (s.putUser after).users.get? id ≠ some user := by
    intro before after hreplaces hget
    rcases Table.get?_put_cases hget with ⟨rfl, rfl⟩ | ⟨-, hold⟩
    · rw [hreplaces.continues.id, hreplaces.found] at hbefore
      cases hbefore
    · rw [hbefore] at hold
      cases hold
  have hsame : s.users.get? id ≠ some user := by
    rw [hbefore]
    simp
  cases commit with
  | enroll other identity role =>
      rcases Table.get?_put_cases hafter with ⟨-, rfl⟩ | ⟨-, hold⟩
      · rfl
      · exact absurd hold hsame
  | revise before after => exact absurd hafter (hreplaced h)
  | link before after identity => exact absurd hafter (hreplaced h.1)
  | repassword before after identity => exact absurd hafter (hreplaced h.1)
  | reset row before after identity => exact absurd hafter (hreplaced h.2.2.2.1)
  | verify row before after identity => exact absurd hafter (hreplaced h.2.2.2.1)
  | _ => exact absurd hafter hsame

/-- A row is as it was, or it is what the commit puts in its place, or it is a new user's. -/
theorem row_apply {commit : Commit} (h : commit.Admissible s) {id : Int} {user : User}
    (hafter : (commit.apply s).users.get? id = some user) :
    s.users.get? id = some user
      ∨ (∃ before, s.users.get? id = some before ∧ commit.revision? = some (before, user))
      ∨ commit.newUser? = some user := by
  have hreplaced : ∀ {before after : User}, Replaces s before after →
      (s.putUser after).users.get? id = some user →
      s.users.get? id = some user
        ∨ ∃ old, s.users.get? id = some old ∧ some (before, after) = some (old, user) := by
    intro before after hreplaces hget
    rcases Table.get?_put_cases hget with ⟨rfl, rfl⟩ | ⟨-, hold⟩
    · exact Or.inr ⟨before, hreplaces.continues.id ▸ hreplaces.found, rfl⟩
    · exact Or.inl hold
  cases commit with
  | enroll other identity role =>
      rcases Table.get?_put_cases hafter with ⟨-, rfl⟩ | ⟨-, hold⟩
      · exact Or.inr (Or.inr rfl)
      · exact Or.inl hold
  | revise before after => exact (hreplaced h hafter).imp_right Or.inl
  | link before after identity => exact (hreplaced h.1 hafter).imp_right Or.inl
  | repassword before after identity => exact (hreplaced h.1 hafter).imp_right Or.inl
  | reset row before after identity => exact (hreplaced h.2.2.2.1 hafter).imp_right Or.inl
  | verify row before after identity => exact (hreplaced h.2.2.2.1 hafter).imp_right Or.inl
  | _ => exact Or.inl hafter

/-- What a commit puts in the place of a row is there after it. -/
theorem revision?_spec {commit : Commit} {before after : User}
    (hrevision : commit.revision? = some (before, after)) :
    (commit.apply s).users.get? after.id = some after := by
  cases commit with
  | revise | link | repassword | reset | verify =>
      cases hrevision
      exact Table.get?_put_self ..
  | _ => cases hrevision

/-! ## Users stay -/

/-- No commit takes a user away, or changes who the user is. -/
theorem continues_apply (hs : s.Sound) {commit : Commit} (h : commit.Admissible s) {id : Int}
    {user : User} (huser : s.users.get? id = some user) :
    ∃ later, (commit.apply s).users.get? id = some later ∧ later.Continues user := by
  have hsame : ∃ later, s.users.get? id = some later ∧ later.Continues user :=
    ⟨user, huser, rfl, rfl, fun h => h⟩
  cases commit with
  | revise before after => exact Store.continues_putUser h.found h.continues huser
  | enroll other identity role =>
      have hne : other.id ≠ id := by
        have hid := hs.user_id huser
        have hother : other.id = s.nextUserId := h.1
        omega
      exact ⟨user, (Table.get?_put_of_ne _ _ hne).trans huser, rfl, rfl, fun h => h⟩
  | link before after identity => exact Store.continues_putUser h.1.found h.1.continues huser
  | repassword before after identity => exact Store.continues_putUser h.1.found h.1.continues huser
  | reset row before after identity =>
      exact Store.continues_putUser h.2.2.2.1.found h.2.2.2.1.continues huser
  | verify row before after identity =>
      exact Store.continues_putUser h.2.2.2.1.found h.2.2.2.1.continues huser
  | _ => exact hsame

/-! ## What a commit does to credentials -/

/-- A commit that writes neither a password nor a one-time token. -/
def IsQuiet : Commit → Prop
  | nothing | revise _ _ | grant _ | revoke _ | revokeAll _ => True
  | enroll _ identity _ | link _ _ identity =>
    identity.provider ≠ .email ∧ identity.provider ≠ .unverifiedEmail
  | repassword _ _ _ | issue _ _ | consume _ | reset _ _ _ _ | verify _ _ _ _ => False

/-- What a commit does to the one-time tokens. -/
theorem resetTokens_apply (s : Store) (commit : Commit) :
    (commit.apply s).resetTokens = match commit with
      | issue _ row => s.resetTokens.put (row.email, row.tokenType) row
      | consume row | reset row _ _ _ | verify row _ _ _ =>
        s.resetTokens.erase (row.email, row.tokenType)
      | _ => s.resetTokens := by
  cases commit <;> rfl

theorem IsQuiet.resetTokens_apply {commit : Commit} (h : commit.IsQuiet) (s : Store) :
    (commit.apply s).resetTokens = s.resetTokens := by
  rw [Commit.resetTokens_apply]
  cases commit with
  | issue user row => exact h.elim
  | consume row => exact h.elim
  | reset row before after identity => exact h.elim
  | verify row before after identity => exact h.elim
  | _ => rfl

/-- What a commit does to the identities. -/
theorem identities_apply (s : Store) (commit : Commit) :
    (commit.apply s).identities = match commit with
      | enroll _ identity _ | link _ _ identity | repassword _ _ identity
      | reset _ _ _ identity => s.identities.put (identity.email, identity.provider) identity
      | verify _ _ _ identity =>
        (s.identities.erase (identity.email, .unverifiedEmail)).put (identity.email, .email)
          { identity with provider := .email }
      | _ => s.identities := by
  cases commit <;> rfl

theorem IsQuiet.identities_apply {commit : Commit} (h : commit.IsQuiet) (s : Store)
    (email : String) {provider : Provider}
    (hprovider : provider = .email ∨ provider = .unverifiedEmail) :
    (commit.apply s).identities.get? (email, provider) = s.identities.get? (email, provider) := by
  have hput : ∀ {identity : Identity},
      identity.provider ≠ .email ∧ identity.provider ≠ .unverifiedEmail →
      (s.identities.put (identity.email, identity.provider) identity).get? (email, provider)
        = s.identities.get? (email, provider) := by
    rintro identity ⟨hemail, hunverified⟩
    refine Table.get?_put_of_ne _ _ fun hkey => ?_
    have hsame : identity.provider = provider := (Prod.mk.inj hkey).2
    rcases hprovider with rfl | rfl
    · exact hemail hsame
    · exact hunverified hsame
  rw [Commit.identities_apply]
  cases commit with
  | enroll user identity role => exact hput h
  | link before after identity => exact hput h
  | repassword before after identity => exact h.elim
  | reset row before after identity => exact h.elim
  | verify row before after identity => exact h.elim
  | _ => rfl

/-! ## What a commit does to role grants -/

/-- A commit of role grants as such. -/
def IsRoleChange : Commit → Prop
  | grant _ | revoke _ | revokeAll _ => True
  | _ => False

/-- Other than by a change of role grants, grants only come with new users: one each, behind all
others. -/
theorem userRoles_apply (hs : s.Sound) {commit : Commit} (h : commit.Admissible s)
    (hchange : ¬commit.IsRoleChange) :
    commit.newUser? = none ∧ (commit.apply s).userRoles = s.userRoles
      ∨ ∃ user role, commit.newUser? = some user ∧ role.userId = user.id ∧ role.role = .user
        ∧ s.users.get? user.id = none ∧ (commit.apply s).users.get? user.id = some user
        ∧ s.userRoles.get? role.id = none
        ∧ (commit.apply s).userRoles = s.userRoles ++ [(role.id, role)] := by
  cases commit with
  | enroll user identity role =>
      obtain ⟨hfreeUser, hthere, -⟩ := newUser?_spec hs h rfl
      obtain ⟨-, -, -, -, -, -, -, hrole, hown, hname⟩ := h
      have hfreeRole : s.userRoles.get? role.id = none := by
        refine Option.eq_none_iff_forall_ne_some.mpr fun found hfound => ?_
        have := (hs.role_id hfound).2.2
        omega
      exact Or.inr ⟨user, role, rfl, hown, hname, hfreeUser, hthere, hfreeRole,
        Table.put_of_get?_none hfreeRole role⟩
  | grant role => exact absurd trivial hchange
  | revoke role => exact absurd trivial hchange
  | revokeAll userId => exact absurd trivial hchange
  | _ => exact Or.inl ⟨rfl, rfl⟩

/-- A grant is one from before, or one that the commit gives, or a new user's. -/
theorem role_apply (hs : s.Sound) {commit : Commit} (h : commit.Admissible s) {key : Int}
    {role : UserRole} (hafter : (commit.apply s).userRoles.get? key = some role) :
    s.userRoles.get? key = some role ∨ commit.granted? = some role
      ∨ ∃ user, commit.newUser? = some user ∧ role.userId = user.id := by
  cases commit with
  | enroll user identity other =>
      obtain ⟨-, -, -, -, -, -, -, -, hown, -⟩ := h
      rcases Table.get?_put_cases hafter with ⟨-, rfl⟩ | ⟨-, hold⟩
      · exact Or.inr (Or.inr ⟨user, rfl, hown⟩)
      · exact Or.inl hold
  | grant other =>
      rcases Table.get?_put_cases hafter with ⟨-, rfl⟩ | ⟨-, hold⟩
      · exact Or.inr (Or.inl rfl)
      · exact Or.inl hold
  | revoke other => exact Or.inl (Table.get?_of_get?_erase hafter).2
  | revokeAll userId =>
      rw [apply, hs.roles_unique.get?_filter, Option.filter_eq_some_iff] at hafter
      exact Or.inl hafter.1
  | _ => exact Or.inl hafter

theorem userRoles_apply_of_none {commit : Commit} (hchange : ¬commit.IsRoleChange)
    (hnew : commit.newUser? = none) : (commit.apply s).userRoles = s.userRoles := by
  cases commit with
  | enroll user identity role => cases hnew
  | grant role => exact absurd trivial hchange
  | revoke role => exact absurd trivial hchange
  | revokeAll userId => exact absurd trivial hchange
  | _ => rfl

/-- The user whose roles a commit changes. -/
def roleOwner? : Commit → Option Int
  | enroll user _ _ => some user.id
  | grant role | revoke role => some role.userId
  | revokeAll userId => some userId
  | _ => none

theorem rolesOf_put (hs : s.Sound) {role : UserRole} (hid : role.id = s.nextRoleId) {other : Int}
    (hne : role.userId ≠ other) :
    (s.userRoles.put role.id role).values.filter (·.userId == other) = s.rolesOf other := by
  have hfree : s.userRoles.get? role.id = none := by
    refine Option.eq_none_iff_forall_ne_some.mpr fun found hfound => ?_
    have := (hs.role_id hfound).2.2
    omega
  rw [Table.put_of_get?_none hfree, Table.values, List.map_append, List.filter_append]
  have hskip : [role].filter (·.userId == other) = [] := by simpa using hne
  exact (congrArg _ hskip).trans (List.append_nil _)

/-- Nobody else's roles change. -/
theorem rolesOf_apply (hs : s.Sound) {commit : Commit} (h : commit.Admissible s) {other : Int}
    (hne : commit.roleOwner? ≠ some other) :
    (commit.apply s).rolesOf other = s.rolesOf other := by
  have howner : ∀ {userId}, commit.roleOwner? = some userId → userId ≠ other := by
    rintro userId huser rfl
    exact hne huser
  -- Grants that are taken out belong to the owner, so a filter for somebody else misses none.
  have hfilter : ∀ p : Int × UserRole → Bool,
      (∀ entry ∈ s.userRoles, p entry = false → entry.2.userId ≠ other) →
      (Table.values (s.userRoles.filter p)).filter (·.userId == other) = s.rolesOf other := by
    intro p hp
    unfold Store.rolesOf Table.values
    rw [List.filter_map, List.filter_map, List.filter_filter]
    refine congrArg _ (List.filter_congr fun entry hmem => ?_)
    cases hpe : p entry with
    | true => simp
    | false => simpa using hp entry hmem hpe
  cases commit with
  | enroll user identity role =>
      obtain ⟨-, -, -, -, -, -, -, hrole, hown, -⟩ := h
      exact rolesOf_put hs hrole (hown ▸ howner rfl)
  | grant role => exact rolesOf_put hs h (howner rfl)
  | revoke role =>
      refine hfilter _ fun entry hmem hpe => ?_
      have hkey : entry.1 = role.id := by simpa using hpe
      have hget := hs.roles_unique.get?_iff.mpr (show (entry.1, entry.2) ∈ s.userRoles from hmem)
      rw [hkey, show s.userRoles.get? role.id = some role from h] at hget
      rw [← Option.some.inj hget]
      exact howner rfl
  | revokeAll userId =>
      refine hfilter _ fun entry hmem hpe => ?_
      have hkey : entry.2.userId = userId := by simpa using hpe
      exact hkey ▸ howner rfl
  | _ => rfl

end Commit

end Accounts
