import Accounts.Proofs.Email
import Accounts.Proofs.Password
import Accounts.Proofs.Table
import Accounts.Store

/-!
# Sound stores

What the four tables promise each other. Users are known by their id and by their e-mail address;
an identity names the user it belongs to, who has its address, and every user has one; what is in a
password's place can be checked; and a one-time token stands for an identity that it can act on.

A user's address is made canonical once more than the identity's; that the two are the same is what
`Email.IsAddress.canonical` says.
-/

namespace Accounts

/-- What identities of a provider carry in a password's place. -/
def Provider.Carries : Provider → Option String → Prop
  | email, password | unverifiedEmail, password =>
    ∃ stored, password = some stored ∧ Password.Readable stored
  | google, password | facebook, password => password = none

/-- An identity with the stored form of a password. -/
def Identity.HasPassword (identity : Identity) (password : String) : Prop :=
  ∃ stored, identity.password = some stored ∧ Password.Holds stored password

/-- The provider of the identities that a one-time token acts on. -/
def TokenType.provider : TokenType → Provider
  | emailVerify => .unverifiedEmail
  | passwordReset => .email

/-- A row that may take the place of another row of the same user. -/
structure User.Continues (after before : User) : Prop where
  id : after.id = before.id
  email : after.email = before.email
  verified : before.emailVerified = some true → after.emailVerified = some true

namespace Store

structure Sound (s : Store) : Prop where
  users_unique : s.users.Unique
  identities_unique : s.identities.Unique
  roles_unique : s.userRoles.Unique
  tokens_unique : s.resetTokens.Unique
  nextUserId_pos : 0 < s.nextUserId
  nextRoleId_pos : 0 < s.nextRoleId
  user_id : ∀ {id user}, s.users.get? id = some user → user.id = id ∧ 0 < id ∧ id < s.nextUserId
  user_email : ∀ {id user}, s.users.get? id = some user → Email.IsAddress user.email
  user_distinct : ∀ {id id' user user'}, s.users.get? id = some user →
    s.users.get? id' = some user' → user.email = user'.email → id = id'
  user_identity : ∀ {id user}, s.users.get? id = some user →
    ∃ key identity, s.identities.get? key = some identity ∧ identity.userId = id
  identity_key : ∀ {key identity}, s.identities.get? key = some identity →
    key = (identity.email, identity.provider)
  identity_user : ∀ {key identity}, s.identities.get? key = some identity →
    ∃ user, s.users.get? identity.userId = some user ∧ user.email = identity.email
  identity_password : ∀ {key identity}, s.identities.get? key = some identity →
    identity.provider.Carries identity.password
  identity_exclusive : ∀ {email identity}, s.identities.get? (email, .email) = some identity →
    s.identities.get? (email, .unverifiedEmail) = none
  identity_verified : ∀ {email identity}, s.identities.get? (email, .email) = some identity →
    ∃ user, s.users.get? identity.userId = some user ∧ user.email = email
      ∧ user.emailVerified = some true
  role_id : ∀ {id role}, s.userRoles.get? id = some role → role.id = id ∧ 0 < id ∧ id < s.nextRoleId
  token_key : ∀ {key row}, s.resetTokens.get? key = some row → key = (row.email, row.tokenType)
  token_user : ∀ {key row}, s.resetTokens.get? key = some row →
    ∃ id user, s.users.get? id = some user ∧ user.email = row.email
  token_identity : ∀ {key row}, s.resetTokens.get? key = some row →
    ∃ identity, s.identities.get? (row.email, row.tokenType.provider) = some identity

theorem sound_empty : empty.Sound where
  users_unique := Table.unique_nil
  identities_unique := Table.unique_nil
  roles_unique := Table.unique_nil
  tokens_unique := Table.unique_nil
  nextUserId_pos := Int.one_pos
  nextRoleId_pos := Int.one_pos
  user_id h := by cases h
  user_email h := by cases h
  user_distinct h := by cases h
  user_identity h := by cases h
  identity_key h := by cases h
  identity_user h := by cases h
  identity_password h := by cases h
  identity_exclusive h := by cases h
  identity_verified h := by cases h
  role_id h := by cases h
  token_key h := by cases h
  token_user h := by cases h
  token_identity h := by cases h

/-! ## Looking users up -/

variable {s : Store}

theorem findUserByEmail_eq_some (hs : s.Sound) {email : String} {user : User}
    (h : s.findUserByEmail email = some user) :
    s.users.get? user.id = some user ∧ user.email = email := by
  unfold findUserByEmail at h
  obtain ⟨id, hid⟩ := (Table.mem_values_iff hs.users_unique).mp (List.mem_of_find?_eq_some h)
  have hemail := List.find?_some h
  exact ⟨(hs.user_id hid).1 ▸ hid, beq_iff_eq.mp hemail⟩

/-- Whoever has a row is found by the address in it. -/
theorem findUserByEmail_isSome (hs : s.Sound) {id : Int} {user : User}
    (h : s.users.get? id = some user) : ∃ found, s.findUserByEmail user.email = some found := by
  have hmem : user ∈ s.users.values := (Table.mem_values_iff hs.users_unique).mpr ⟨id, h⟩
  have hsome : (s.findUserByEmail user.email).isSome :=
    List.find?_isSome.mpr ⟨user, hmem, beq_iff_eq.mpr rfl⟩
  exact Option.isSome_iff_exists.mp hsome

theorem findUserByEmail_iff (hs : s.Sound) {email : String} {user : User} :
    s.findUserByEmail email = some user ↔
      s.users.get? user.id = some user ∧ user.email = email := by
  refine ⟨findUserByEmail_eq_some hs, ?_⟩
  rintro ⟨huser, rfl⟩
  obtain ⟨found, hfound⟩ := findUserByEmail_isSome hs huser
  obtain ⟨hthere, hemail⟩ := findUserByEmail_eq_some hs hfound
  have hid := hs.user_distinct hthere huser hemail
  rw [hid, huser] at hthere
  rw [hfound, ← hthere]

theorem findUserByAddress_eq_some (hs : s.Sound) {address : JsonString} {user : User}
    (h : s.findUserByAddress address = some user) :
    s.users.get? user.id = some user ∧ address = .text user.email := by
  cases address with
  | text email =>
      obtain ⟨hthere, rfl⟩ := findUserByEmail_eq_some hs h
      exact ⟨hthere, rfl⟩
  | unpaired codes hcodes => cases h

theorem emailExists_eq_isSome (s : Store) (email : String) :
    s.emailExists email = (s.findUserByEmail email).isSome :=
  List.isSome_find?.symm

theorem emailExists_eq_false (hs : s.Sound) {email : String} (h : s.emailExists email = false)
    {id : Int} {user : User} (hid : s.users.get? id = some user) : user.email ≠ email := by
  rintro rfl
  have hmem := (Table.mem_values_iff hs.users_unique).mpr ⟨id, hid⟩
  rw [emailExists, List.any_eq_false] at h
  exact h user hmem (beq_iff_eq.mpr rfl)

/-- An identity names the user who has its address. -/
theorem Sound.user_of_identity (hs : s.Sound) {email : String} {provider : Provider}
    {identity : Identity} (h : s.findIdentity email provider = some identity) :
    ∃ user, s.users.get? identity.userId = some user ∧ user.email = email := by
  obtain ⟨user, huser, hemail⟩ := hs.identity_user h
  exact ⟨user, huser, hemail.trans (Prod.mk.inj (hs.identity_key h)).1.symm⟩

/-- Where nobody has an address, no identity has it. -/
theorem identity_none_of_emailExists (hs : s.Sound) {email : String}
    (h : s.emailExists email = false) (provider : Provider) :
    s.identities.get? (email, provider) = none := by
  rw [Option.eq_none_iff_forall_ne_some]
  intro identity hidentity
  obtain ⟨user, huser, hemail⟩ := hs.user_of_identity hidentity
  exact emailExists_eq_false hs h huser hemail

/-! ## Single writes -/

/-- Puts a user under its id. -/
def putUser (s : Store) (user : User) : Store := { s with users := s.users.put user.id user }

/-- Puts an identity under its address and provider. -/
def putIdentity (s : Store) (identity : Identity) : Store :=
  { s with identities := s.identities.put (identity.email, identity.provider) identity }

/-- Moves an identity with a password to the verified ones. -/
def verifyIdentity (s : Store) (identity : Identity) : Store :=
  { s with
    identities := (s.identities.erase (identity.email, .unverifiedEmail)).put
      (identity.email, .email) { identity with provider := .email } }

def eraseToken (s : Store) (row : ResetToken) : Store :=
  { s with resetTokens := s.resetTokens.erase (row.email, row.tokenType) }

theorem createUser_eq_ok {now : Timestamp} {sagaId : JsonString} {p : NewUser}
    (h : s.emailExists p.email = false) :
    s.createUser now sagaId p = .ok (userRow s.nextUserId now sagaId p,
      { s.putUser (userRow s.nextUserId now sagaId p) with nextUserId := s.nextUserId + 1 }) := by
  rw [createUser, h]
  rfl

theorem createIdentity_eq_ok {identity : Identity}
    (h : s.identities.get? (identity.email, identity.provider) = none) :
    s.createIdentity identity = .ok (identity, s.putIdentity identity) := by
  rw [createIdentity, identityExists, Table.has_eq_false.mpr h]
  rfl

theorem updateProvider_eq_ok {email : String} {old new : Provider} {identity : Identity}
    (hfree : s.identities.get? (email, new) = none) (h : s.findIdentity email old = some identity) :
    s.updateProvider email old new = .ok ({ identity with provider := new },
      { s with
        identities := (s.identities.erase (email, old)).put (email, new)
          { identity with provider := new } }) := by
  rw [updateProvider, identityExists, Table.has_eq_false.mpr hfree, h]
  rfl

theorem modifyUser_eq_ok {id : Int} {user : User} (h : s.findUser id = some user)
    (f : User → User) :
    s.modifyUser id f = .ok (f user, { s with users := s.users.put id (f user) }) := by
  rw [modifyUser, h]

/-- A row that takes the place of another one is found in its place, and the others stay. -/
theorem continues_putUser {before after : User} (hget : s.users.get? before.id = some before)
    (hafter : after.Continues before) {id : Int} {user : User}
    (huser : s.users.get? id = some user) :
    ∃ later, (s.putUser after).users.get? id = some later ∧ later.Continues user := by
  rw [putUser, Table.get?_put]
  split
  · rename_i hid
    rw [← hid, hafter.id, hget] at huser
    exact ⟨after, rfl, Option.some.inj huser ▸ hafter⟩
  · exact ⟨user, huser, rfl, rfl, fun h => h⟩

theorem Sound.putUser (hs : s.Sound) {before after : User}
    (hget : s.users.get? before.id = some before) (hafter : after.Continues before) :
    (s.putUser after).Sound := by
  -- Every row that is found afterwards continues the row that was found before.
  have hback : ∀ {id user}, (s.putUser after).users.get? id = some user →
      ∃ old, s.users.get? id = some old ∧ user.Continues old := by
    intro id user h
    rcases Table.get?_put_cases h with ⟨rfl, rfl⟩ | ⟨-, hold⟩
    · exact ⟨before, by rw [hafter.id, hget], hafter⟩
    · exact ⟨user, hold, rfl, rfl, fun h => h⟩
  exact { hs with
    users_unique := hs.users_unique.put _ _
    user_id := fun h => by
      obtain ⟨old, hold, hc⟩ := hback h
      rw [hc.id]
      exact hs.user_id hold
    user_email := fun h => by
      obtain ⟨old, hold, hc⟩ := hback h
      rw [hc.email]
      exact hs.user_email hold
    user_distinct := fun h h' hemail => by
      obtain ⟨old, hold, hc⟩ := hback h
      obtain ⟨old', hold', hc'⟩ := hback h'
      exact hs.user_distinct hold hold' (by rw [← hc.email, ← hc'.email, hemail])
    user_identity := fun h => by
      obtain ⟨old, hold, -⟩ := hback h
      exact hs.user_identity hold
    identity_user := fun h => by
      obtain ⟨old, hold, hemail⟩ := hs.identity_user h
      obtain ⟨user, huser, hc⟩ := continues_putUser hget hafter hold
      exact ⟨user, huser, by rw [hc.email, hemail]⟩
    identity_verified := fun h => by
      obtain ⟨old, hold, hemail, hverified⟩ := hs.identity_verified h
      obtain ⟨user, huser, hc⟩ := continues_putUser hget hafter hold
      exact ⟨user, huser, hc.email.trans hemail, hc.verified hverified⟩
    token_user := fun h => by
      obtain ⟨id, old, hold, hemail⟩ := hs.token_user h
      obtain ⟨user, huser, hc⟩ := continues_putUser hget hafter hold
      exact ⟨id, user, huser, hc.email.trans hemail⟩ }

/-- What an identity has to bring along to be put into a store: a user, what its provider
carries, and what the two kinds of password identities ask for. -/
structure Admits (s : Store) (identity : Identity) : Prop where
  user : ∃ user, s.users.get? identity.userId = some user ∧ user.email = identity.email
  carries : identity.provider.Carries identity.password
  keeps : ∀ old, s.identities.get? (identity.email, identity.provider) = some old →
    old.userId = identity.userId
  unverified : identity.provider = .unverifiedEmail →
    s.identities.get? (identity.email, .email) = none
  verified : identity.provider = .email →
    s.identities.get? (identity.email, .unverifiedEmail) = none
      ∧ ∃ user, s.users.get? identity.userId = some user ∧ user.email = identity.email
        ∧ user.emailVerified = some true

theorem Sound.putIdentity (hs : s.Sound) {identity : Identity} (hadmits : s.Admits identity) :
    (s.putIdentity identity).Sound := by
  have hforth : ∀ {key old}, s.identities.get? key = some old →
      ∃ other, (s.putIdentity identity).identities.get? key = some other
        ∧ other.userId = old.userId := by
    intro key old h
    rw [Store.putIdentity, Table.get?_put]
    split
    · rename_i hkey
      exact ⟨identity, rfl, (hadmits.keeps old (hkey ▸ h)).symm⟩
    · exact ⟨old, h, rfl⟩
  have hnone : ∀ {key}, s.identities.get? key = none →
      key ≠ (identity.email, identity.provider) →
      (s.putIdentity identity).identities.get? key = none := by
    intro key h hkey
    rw [Store.putIdentity, Table.get?_put_of_ne _ _ fun e => hkey e.symm, h]
  exact { hs with
    identities_unique := hs.identities_unique.put _ _
    user_identity := fun h => by
      obtain ⟨key, old, hold, hid⟩ := hs.user_identity h
      obtain ⟨other, hother, hsame⟩ := hforth hold
      exact ⟨key, other, hother, hsame.trans hid⟩
    identity_key := fun h => by
      rcases Table.get?_put_cases h with ⟨rfl, rfl⟩ | ⟨-, hold⟩
      · rfl
      · exact hs.identity_key hold
    identity_user := fun h => by
      rcases Table.get?_put_cases h with ⟨rfl, rfl⟩ | ⟨-, hold⟩
      · exact hadmits.user
      · exact hs.identity_user hold
    identity_password := fun h => by
      rcases Table.get?_put_cases h with ⟨rfl, rfl⟩ | ⟨-, hold⟩
      · exact hadmits.carries
      · exact hs.identity_password hold
    identity_exclusive := fun {email other} h => by
      rcases Table.get?_put_cases h with ⟨hkey, rfl⟩ | ⟨-, hold⟩
      · obtain ⟨rfl, hprovider⟩ := Prod.mk.inj hkey
        refine hnone (hadmits.verified hprovider.symm).1 fun e => ?_
        rw [← hprovider] at e
        cases (Prod.mk.inj e).2
      · refine hnone (hs.identity_exclusive hold) fun e => ?_
        obtain ⟨rfl, hprovider⟩ := Prod.mk.inj e
        rw [hadmits.unverified hprovider.symm] at hold
        cases hold
    identity_verified := fun {email other} h => by
      rcases Table.get?_put_cases h with ⟨hkey, rfl⟩ | ⟨-, hold⟩
      · obtain ⟨rfl, hprovider⟩ := Prod.mk.inj hkey
        exact (hadmits.verified hprovider.symm).2
      · exact hs.identity_verified hold
    token_identity := fun h => by
      obtain ⟨old, hold⟩ := hs.token_identity h
      obtain ⟨other, hother, -⟩ := hforth hold
      exact ⟨other, hother⟩ }

theorem Sound.eraseToken (hs : s.Sound) (row : ResetToken) : (s.eraseToken row).Sound :=
  { hs with
    tokens_unique := hs.tokens_unique.erase _
    token_key := fun h => hs.token_key (Table.get?_of_get?_erase h).2
    token_user := fun h => hs.token_user (Table.get?_of_get?_erase h).2
    token_identity := fun h => hs.token_identity (Table.get?_of_get?_erase h).2 }

/-- A token is put in for a user who has an identity that it acts on. -/
theorem Sound.putToken (hs : s.Sound) {row : ResetToken} {id : Int} {user : User}
    {identity : Identity} (huser : s.users.get? id = some user) (hemail : user.email = row.email)
    (hidentity : s.identities.get? (row.email, row.tokenType.provider) = some identity) :
    Sound { s with resetTokens := s.resetTokens.put (row.email, row.tokenType) row } :=
  { hs with
    tokens_unique := hs.tokens_unique.put _ _
    token_key := fun h => by
      rcases Table.get?_put_cases h with ⟨rfl, rfl⟩ | ⟨-, hold⟩
      · rfl
      · exact hs.token_key hold
    token_user := fun h => by
      rcases Table.get?_put_cases h with ⟨rfl, rfl⟩ | ⟨-, hold⟩
      · exact ⟨id, user, huser, hemail⟩
      · exact hs.token_user hold
    token_identity := fun h => by
      rcases Table.get?_put_cases h with ⟨rfl, rfl⟩ | ⟨-, hold⟩
      · exact ⟨identity, hidentity⟩
      · exact hs.token_identity hold }

/-- An identity with a password is verified: its user is, and no token for that is left. -/
theorem Sound.verifyIdentity (hs : s.Sound) {identity : Identity} {user : User}
    (hget : s.identities.get? (identity.email, .unverifiedEmail) = some identity)
    (hfree : s.identities.get? (identity.email, .email) = none)
    (huser : s.users.get? identity.userId = some user) (hemail : user.email = identity.email)
    (hverified : user.emailVerified = some true)
    (htoken : s.resetTokens.get? (identity.email, .emailVerify) = none) :
    (s.verifyIdentity identity).Sound := by
  have hback : ∀ {key other}, (s.verifyIdentity identity).identities.get? key = some other →
      key = (identity.email, .email) ∧ other = { identity with provider := .email }
        ∨ s.identities.get? key = some other := by
    intro key other h
    rcases Table.get?_put_cases h with hnew | ⟨-, hold⟩
    · exact Or.inl hnew
    · exact Or.inr (Table.get?_of_get?_erase hold).2
  have hforth : ∀ {key other}, s.identities.get? key = some other →
      key ≠ (identity.email, .unverifiedEmail) →
      (s.verifyIdentity identity).identities.get? key = some other := by
    intro key other h hne
    rw [Store.verifyIdentity, Table.get?_put_of_ne, Table.get?_erase_of_ne _ hne.symm, h]
    rintro rfl
    rw [hfree] at h
    cases h
  have hgone : (s.verifyIdentity identity).identities.get?
      (identity.email, .unverifiedEmail) = none := by
    rw [Store.verifyIdentity, Table.get?_put_of_ne _ _ fun e => ?_, Table.get?_erase_self]
    cases (Prod.mk.inj e).2
  have hprovider : identity.provider = .unverifiedEmail :=
    (Prod.mk.inj (hs.identity_key hget)).2.symm
  exact { hs with
    identities_unique := (hs.identities_unique.erase _).put _ _
    user_identity := fun h => by
      obtain ⟨key, old, hold, hid⟩ := hs.user_identity h
      by_cases hkey : key = (identity.email, .unverifiedEmail)
      · rw [hkey, hget] at hold
        obtain rfl := Option.some.inj hold
        exact ⟨_, _, Table.get?_put_self .., hid⟩
      · exact ⟨key, old, hforth hold hkey, hid⟩
    identity_key := fun h => by
      rcases hback h with ⟨rfl, rfl⟩ | hold
      · rfl
      · exact hs.identity_key hold
    identity_user := fun h => by
      rcases hback h with ⟨rfl, rfl⟩ | hold
      · obtain ⟨owner, howner, hemail⟩ := hs.identity_user hget
        exact ⟨owner, howner, hemail⟩
      · exact hs.identity_user hold
    identity_password := fun h => by
      rcases hback h with ⟨rfl, rfl⟩ | hold
      · have hcarries := hs.identity_password hget
        rw [hprovider] at hcarries
        exact hcarries
      · exact hs.identity_password hold
    identity_exclusive := fun {email other} h => by
      rcases hback h with ⟨hkey, -⟩ | hold
      · rw [(Prod.mk.inj hkey).1, hgone]
      · refine Option.eq_none_iff_forall_ne_some.mpr fun found hfound => ?_
        rcases hback hfound with ⟨hkey, -⟩ | hunverified
        · cases (Prod.mk.inj hkey).2
        · rw [hs.identity_exclusive hold] at hunverified
          cases hunverified
    identity_verified := fun {email other} h => by
      rcases hback h with ⟨hkey, rfl⟩ | hold
      · exact ⟨user, huser, hemail.trans (Prod.mk.inj hkey).1.symm, hverified⟩
      · exact hs.identity_verified hold
    token_identity := fun {key row} h => by
      obtain ⟨old, hold⟩ := hs.token_identity h
      refine ⟨old, hforth hold fun e => ?_⟩
      obtain ⟨hrow, htype⟩ := Prod.mk.inj e
      cases htokenType : row.tokenType with
      | passwordReset => rw [htokenType] at htype; cases htype
      | emailVerify =>
          have hrowKey := hs.token_key h
          rw [hrow, htokenType] at hrowKey
          exact absurd (htoken.symm.trans (hrowKey ▸ h)) (by simp) }

/-- Role grants come and go without the other tables; only their ids are kept count of. -/
theorem Sound.withRoles (hs : s.Sound) {roles : Table Int UserRole} {next : Int}
    (hunique : roles.Unique) (hnext : 0 < next)
    (hroles : ∀ {id role}, roles.get? id = some role → role.id = id ∧ 0 < id ∧ id < next) :
    Sound { s with userRoles := roles, nextRoleId := next } :=
  { hs with roles_unique := hunique, nextRoleId_pos := hnext, role_id := hroles }

/-- A user comes with the first identity. -/
theorem Sound.enroll (hs : s.Sound) {user : User} {identity : Identity}
    (hid : user.id = s.nextUserId) (hfree : s.emailExists user.email = false)
    (haddress : Email.IsAddress user.email) (hsame : user.email = identity.email)
    (hown : identity.userId = user.id) (hprovider : identity.provider ≠ .email)
    (hcarries : identity.provider.Carries identity.password) :
    Sound { (s.putUser user).putIdentity identity with nextUserId := s.nextUserId + 1 } := by
  have hpos := hs.nextUserId_pos
  have hforthUser : ∀ {id other}, s.users.get? id = some other →
      (s.users.put user.id user).get? id = some other := by
    intro id other h
    have hlt := (hs.user_id h).2.2
    rw [Table.get?_put_of_ne _ _ (by omega), h]
  have hnone := identity_none_of_emailExists hs (hsame ▸ hfree)
  have hforthIdentity : ∀ {key other}, s.identities.get? key = some other →
      (s.identities.put (identity.email, identity.provider) identity).get? key = some other := by
    intro key other h
    rw [Table.get?_put_of_ne _ _ _, h]
    rintro rfl
    rw [hnone] at h
    cases h
  have hold : ∀ {email other},
      (s.identities.put (identity.email, identity.provider) identity).get? (email, .email)
        = some other → s.identities.get? (email, .email) = some other := by
    intro email other h
    rcases Table.get?_put_cases h with ⟨hkey, -⟩ | ⟨-, hold⟩
    · exact absurd (Prod.mk.inj hkey).2.symm hprovider
    · exact hold
  exact {
    users_unique := hs.users_unique.put _ _
    identities_unique := hs.identities_unique.put _ _
    roles_unique := hs.roles_unique
    tokens_unique := hs.tokens_unique
    nextUserId_pos := by dsimp only; omega
    nextRoleId_pos := hs.nextRoleId_pos
    user_id := fun h => by
      dsimp only
      rcases Table.get?_put_cases h with ⟨rfl, rfl⟩ | ⟨-, hold⟩
      · omega
      · have := hs.user_id hold
        omega
    user_email := fun h => by
      rcases Table.get?_put_cases h with ⟨rfl, rfl⟩ | ⟨-, hold⟩
      · exact haddress
      · exact hs.user_email hold
    user_distinct := fun h h' hemail => by
      rcases Table.get?_put_cases h with ⟨rfl, rfl⟩ | ⟨-, hold⟩ <;>
        rcases Table.get?_put_cases h' with ⟨rfl, rfl⟩ | ⟨-, hold'⟩
      · rfl
      · exact absurd hemail.symm (emailExists_eq_false hs hfree hold')
      · exact absurd hemail (emailExists_eq_false hs hfree hold)
      · exact hs.user_distinct hold hold' hemail
    user_identity := fun h => by
      rcases Table.get?_put_cases h with ⟨rfl, rfl⟩ | ⟨-, hold⟩
      · exact ⟨_, identity, Table.get?_put_self .., hown⟩
      · obtain ⟨key, other, hother, hid⟩ := hs.user_identity hold
        exact ⟨key, other, hforthIdentity hother, hid⟩
    identity_key := fun h => by
      rcases Table.get?_put_cases h with ⟨rfl, rfl⟩ | ⟨-, hold⟩
      · rfl
      · exact hs.identity_key hold
    identity_user := fun h => by
      rcases Table.get?_put_cases h with ⟨rfl, rfl⟩ | ⟨-, hold⟩
      · exact ⟨user, hown ▸ Table.get?_put_self .., hsame⟩
      · obtain ⟨owner, howner, hemail⟩ := hs.identity_user hold
        exact ⟨owner, hforthUser howner, hemail⟩
    identity_password := fun h => by
      rcases Table.get?_put_cases h with ⟨rfl, rfl⟩ | ⟨-, hold⟩
      · exact hcarries
      · exact hs.identity_password hold
    identity_exclusive := fun {email other} h => by
      refine (Table.get?_put_of_ne _ _ fun hkey => ?_).trans (hs.identity_exclusive (hold h))
      have := hnone .email
      rw [(Prod.mk.inj hkey).1, hold h] at this
      cases this
    identity_verified := fun h => by
      obtain ⟨owner, howner, hemail⟩ := hs.identity_verified (hold h)
      exact ⟨owner, hforthUser howner, hemail⟩
    role_id := hs.role_id
    token_key := hs.token_key
    token_user := fun h => by
      obtain ⟨id, owner, howner, hemail⟩ := hs.token_user h
      exact ⟨id, owner, hforthUser howner, hemail⟩
    token_identity := fun h => by
      obtain ⟨other, hother⟩ := hs.token_identity h
      exact ⟨other, hforthIdentity hother⟩ }

end Store

end Accounts
