import Accounts.Proofs.Service.Users
import Accounts.Service.Credentials

/-!
# What operations on credentials commit

Changing a password and asking for a one-time token take the caller's right to update the user.
Using a token takes no right: it commits for the user whose address the token was issued for, and
where it fails behind the token, the token is all that is gone.
-/

namespace Accounts.Credentials

open Op Users
open Text (codesOf)

variable {w : World} {time : Int} {s : Store}

theorem lifetime_keeps (hw : w.At time s) (micros : Int) : (lifetime micros).Keeps w time s := by
  unfold lifetime
  split <;> exact hw

theorem ends_isPassword (stored : Option String) (password : String) :
    (isPassword stored password).Ends w
      (fun same w' => Password.verify (stored.map (codesOf ·.toList)) (codesOf password.toList)
        = .ok same ∧ w' = w)
      (fun failure w' => Password.verify (stored.map (codesOf ·.toList)) (codesOf password.toList)
        = .error failure ∧ w' = w) := by
  unfold isPassword
  rw [ends_ofResult]
  cases Password.verify (stored.map (codesOf ·.toList)) (codesOf password.toList) with
  | error failure => exact ⟨rfl, rfl⟩
  | ok same => exact ⟨rfl, rfl⟩

/-! ## Changing a password -/

/-- Where user and identity are there, a password is replaced. -/
theorem ends_replacePassword {email : String} {userId : Int} {before : User} {old : Identity}
    (huser : w.store.findUser userId = some before)
    (hidentity : w.store.findIdentity email .email = some old) (password : String) :
    (replacePassword email userId password).Ends w
      (fun user w' => user = before.revokedAt w.now ∧ ∃ stored, Password.Holds stored password
        ∧ w'.now = w.now ∧ w'.cache = w.cache
        ∧ w'.store = { w.store with
            users := w.store.users.put userId user
            identities := w.store.identities.put (email, .email)
              { old with password := some stored } })
      (fun _ _ => False) := by
  unfold replacePassword
  refine (ends_hashNew password).next ?_ fun _ _ h => h
  rintro stored w₁ ⟨hholds, hnow, hstore, hcache⟩
  rw [ends_bind, ends_write, hstore, Store.updatePassword, hidentity]
  dsimp only
  rw [ends_bind, ends_now, ends_write, Store.revokeTokens, Store.modifyUser_eq_ok]
  · exact ⟨by rw [hnow]; rfl, stored, hholds, hnow, hcache, rfl⟩
  · exact huser

/-- An identity with a password, once more with another one. -/
theorem repasswords (hs : s.Sound) {user : User} {old : Identity} {stored : String}
    (hidentity : s.findIdentity user.email .email = some old)
    (hreadable : Password.Readable stored) :
    Commit.Repasswords s user { old with password := some stored } := by
  have hemail : user.email = old.email := (Prod.mk.inj (hs.identity_key hidentity)).1
  exact ⟨hemail, old, stored, by rw [← hemail]; exact hidentity, rfl, hreadable⟩

/-- The store with the row of a user and an identity replaced, as a commit has it. -/
theorem putUser_putIdentity_eq (hs : s.Sound) {before after : User} {old : Identity}
    {stored : String} (hid : after.id = before.id)
    (hidentity : s.findIdentity before.email .email = some old) :
    (s.putUser after).putIdentity { old with password := some stored } =
      { s with
        users := s.users.put before.id after
        identities := s.identities.put (before.email, .email)
          { old with password := some stored } } := by
  have hkey := hs.identity_key hidentity
  rw [Store.putIdentity, Store.putUser, hid, hkey]

/-- A caller who may gets another password. -/
def ChangesPassword (s : Store) (caller : Caller) (payload : ChangeIdentityPassword) (user : User)
    (commit : Commit) : Prop :=
  ∃ before identity, s.Permits caller .users .update (targetOf before)
    ∧ identity.HasPassword payload.newPassword ∧ commit = .repassword before user identity

theorem changePassword_revises (hw : w.At time s) (hs : s.Sound) (caller : Caller)
    (payload : ChangeIdentityPassword) :
    (changePassword caller payload).Commits w time s
      (fun user commit => ChangesPassword s caller payload user commit
        ∧ commit.Revises (User.revokedAt time))
      (· = .nothing) := by
  refine Writes.commits ?_ ?_ ?_
  · unfold changePassword
    split
    · exact ⟨_, rfl, hw.ahead⟩
    · rename_i userId _
      refine Writes.withSlot hw (fun w₁ hw₁ => ?_) fun _ => rfl
      unfold Writes
      rw [ends_bind, ends_read, ends_bind, ends_found, hw₁.store]
      cases hfind : s.findUser userId with
      | none => exact ⟨_, rfl, hw₁.ahead⟩
      | some before =>
          have hid : before.id = userId := (hs.user_id hfind).1
          refine (ends_require hw₁ caller _ _ _).next ?_ fun _ _ h => ⟨_, rfl, h.2.ahead⟩
          rintro _ w₂ ⟨hw₂, hpermits⟩
          rw [ends_bind, ends_read, hw₂.store]
          cases hidentity : s.findIdentity before.email .email with
          | none => exact ⟨_, rfl, hw₂.ahead⟩
          | some old =>
              refine (ends_isPassword _ _).next ?_ fun _ _ h => ⟨_, rfl, h.2 ▸ hw₂.ahead⟩
              rintro same _ ⟨-, rfl⟩
              refine ends_unless (fun _ => ⟨_, rfl, hw₂.ahead⟩) fun _ => ?_
              refine (ends_replacePassword (by rw [hw₂.store, hid, hfind])
                (by rw [hw₂.store, hidentity]) payload.newPassword).mono ?_ fun _ _ h => h.elim
              rintro user w₃ ⟨rfl, stored, hholds, hnow, hcache, hstore⟩
              exact ⟨_, ⟨⟨before, _, hpermits, ⟨stored, rfl, hholds⟩, rfl⟩,
                  (Commit.revises_iff rfl).mpr (by rw [hw₂.now])⟩, hnow.trans hw₂.now,
                by rw [hstore, hw₂.store, Commit.apply,
                  putUser_putIdentity_eq hs (User.revokedAt_continues _ _).id hidentity],
                hcache ▸ hw₂.agrees, ⟨hid ▸ hfind, User.revokedAt_continues _ _⟩,
                repasswords hs hidentity hholds.readable⟩
  · rintro _ _ ⟨⟨before, identity, -, -, rfl⟩, -⟩
    exact ⟨False.elim, rfl⟩
  · rintro _ rfl
    exact ⟨False.elim, rfl⟩

theorem changePassword_commits (hw : w.At time s) (hs : s.Sound) (caller : Caller)
    (payload : ChangeIdentityPassword) :
    (changePassword caller payload).Commits w time s (ChangesPassword s caller payload)
      (· = .nothing) :=
  (changePassword_revises hw hs caller payload).mono (fun _ _ _ h => h.1) fun _ _ h => h

/-! ## Asking for a token -/

theorem requireUpdate_ends (hw : w.At time s) (caller : Caller) (email : String) :
    (requireUpdate caller email).Ends w
      (fun _ w' => w'.At time s ∧ ∃ user, s.findUserByEmail email = some user
        ∧ s.Permits caller .users .update (targetOf user))
      (fun _ w' => w'.At time s) := by
  unfold requireUpdate
  refine (ends_require hw caller _ _ _).next ?_ fun _ _ h => h.2
  rintro _ w₁ ⟨hw₁, -⟩
  rw [ends_bind, ends_read, ends_bind, ends_found, hw₁.store]
  cases hfind : s.findUserByEmail email with
  | none => exact hw₁
  | some user =>
      exact (ends_require hw₁ caller _ _ _).mono
        (fun _ _ ⟨hw₂, hpermits⟩ => ⟨hw₂, user, rfl, hpermits⟩) fun _ _ h => h.2

/-- A token is issued for a user whom the caller may update. -/
def Issues (s : Store) (caller : Caller) (payload : ResetRequest) (tokenType : TokenType)
    (row : ResetToken) (commit : Commit) : Prop :=
  ∃ user, s.Permits caller .users .update (targetOf user) ∧ user.email = payload.email
    ∧ row.tokenType = tokenType ∧ commit = .issue user row

theorem request_commits (hw : w.At time s) (hs : s.Sound) (caller : Caller)
    (payload : ResetRequest) (tokenType : TokenType) (refusal : String) :
    (request caller payload tokenType.provider tokenType refusal).Commits w time s
      (Issues s caller payload tokenType) (· = .nothing) := by
  refine Writes.commits ?_ ?_ ?_
  · unfold request
    refine Writes.withSlot hw (fun w₁ hw₁ => ?_) fun _ => rfl
    refine (requireUpdate_ends hw₁ caller payload.email).next ?_ fun _ _ h => ⟨_, rfl, h.ahead⟩
    rintro _ w₂ ⟨hw₂, user, hfind, hpermits⟩
    obtain ⟨huser, hemail⟩ := Store.findUserByEmail_eq_some hs hfind
    rw [ends_bind, ends_read, hw₂.store]
    refine ends_unless (fun _ => ⟨_, rfl, hw₂.ahead⟩) fun hexists => ?_
    have hexists : s.identityExists payload.email tokenType.provider = true := by
      simpa using hexists
    have hidentity := Table.has_eq_true.mp hexists
    unfold freshToken
    simp only [ends_bind, ends_get, ends_modify, ends_pure, ends_now]
    rw [ends_put]
    exact ⟨_, ⟨user, hpermits, hemail, rfl, rfl⟩, hw₂.now, by rw [← hw₂.store]; rfl, hw₂.agrees,
      huser, hemail.symm, hidentity⟩
  · rintro _ _ ⟨user, -, -, -, rfl⟩
    exact ⟨False.elim, rfl⟩
  · rintro _ rfl
    exact ⟨False.elim, rfl⟩

theorem requestPasswordReset_commits (hw : w.At time s) (hs : s.Sound) (caller : Caller)
    (payload : ResetRequest) :
    (requestPasswordReset caller payload).Commits w time s
      (Issues s caller payload .passwordReset) (· = .nothing) :=
  request_commits hw hs caller payload .passwordReset _

theorem requestEmailVerification_commits (hw : w.At time s) (hs : s.Sound) (caller : Caller)
    (payload : ResetRequest) :
    (requestEmailVerification caller payload).Commits w time s
      (Issues s caller payload .emailVerify) (· = .nothing) :=
  request_commits hw hs caller payload .emailVerify _

/-! ## Using a token -/

/-- A token is good until a lifetime after it was issued. -/
structure IsGood (life : Lifetime) (time : Int) (row : ResetToken) : Prop where
  inRange : Timestamp.inRange (row.createdAt.reading + life) = true
  notOver : time ≤ row.createdAt.reading + life

/-- Nothing, or no more than the token that was presented. -/
def Spends (s : Store) (token : String) (tokenType : TokenType) (commit : Commit) : Prop :=
  commit = .nothing ∨ ∃ row, s.findToken token tokenType = some row ∧ commit = .consume row

/-- What presenting a token comes to that does not act: one that is not there leaves everything as
it is, one that is no longer good is gone. -/
def Misses (s : Store) (time : Int) (life : Lifetime) (token : String) (tokenType : TokenType)
    (commit : Commit) : Prop :=
  s.findToken token tokenType = none ∧ commit = .nothing
    ∨ ∃ row, s.findToken token tokenType = some row ∧ ¬IsGood life time row
      ∧ commit = .consume row

/-- A token that is presented acts: there is a slot, and the token is there and good. -/
def Accepts (w : World) (life : Lifetime) (token : String) (tokenType : TokenType) : Prop :=
  w.slots.isFree = true
    ∧ ∃ row, w.store.findToken token tokenType = some row ∧ IsGood life w.now row

/-- What is committed where a token was presented to no effect: nothing without a slot, and
otherwise no more than the token. -/
def Wastes (w : World) (life : Lifetime) (token : String) (tokenType : TokenType)
    (commit : Commit) : Prop :=
  w.slots.isFree = false ∧ commit = .nothing
    ∨ w.slots.isFree = true ∧ Misses w.store w.now life token tokenType commit

theorem Wastes.spends {life : Lifetime} {token : String} {tokenType : TokenType} {commit : Commit}
    (h : Wastes w life token tokenType commit) : Spends w.store token tokenType commit := by
  rcases h with ⟨-, rfl⟩ | ⟨-, ⟨-, rfl⟩ | ⟨row, hfind, -, rfl⟩⟩
  · exact Or.inl rfl
  · exact Or.inl rfl
  · exact Or.inr ⟨row, hfind, rfl⟩

theorem findToken_eq_some (hs : s.Sound) {token : String} {tokenType : TokenType}
    {row : ResetToken} (h : s.findToken token tokenType = some row) :
    s.resetTokens.get? (row.email, row.tokenType) = some row ∧ row.token = token
      ∧ row.tokenType = tokenType := by
  unfold Store.findToken at h
  have hrow := List.find?_some h
  simp only [Bool.and_eq_true, beq_iff_eq] at hrow
  obtain ⟨key, hkey⟩ := (Table.mem_values_iff hs.tokens_unique).mp (List.mem_of_find?_eq_some h)
  exact ⟨hs.token_key hkey ▸ hkey, hrow⟩

/-- The token that was presented is gone, if it was there, and it is used only while it is good. -/
theorem useToken_ends (hw : w.At time s) (hs : s.Sound) (life : Lifetime) (token : String)
    (tokenType : TokenType) :
    (useToken life token tokenType).Ends w
      (fun row w' => s.findToken token tokenType = some row ∧ IsGood life time row
        ∧ w'.Ahead time s (.consume row))
      (fun _ w' => ∃ commit, Misses s time life token tokenType commit
        ∧ w'.Ahead time s commit) := by
  unfold useToken
  rw [ends_bind, ends_put, hw.store, Store.takeToken]
  cases hfind : s.findToken token tokenType with
  | none => exact ⟨_, Or.inl ⟨hfind, rfl⟩, hw.now, rfl, hw.agrees, trivial⟩
  | some row =>
      obtain ⟨hget, -, rfl⟩ := findToken_eq_some hs hfind
      have hahead : World.Ahead { w with store := s.eraseToken row } time s (.consume row) :=
        ⟨hw.now, rfl, hw.agrees, hget⟩
      have hmissed : ¬IsGood life time row →
          Misses s time life token row.tokenType (.consume row) :=
        fun hbad => Or.inr ⟨row, hfind, hbad, rfl⟩
      dsimp only
      refine ends_unless (fun hrange => ⟨_, hmissed fun hgood => ?_, hahead⟩) fun hrange => ?_
      · rw [hgood.inRange] at hrange
        cases hrange
      rw [ends_bind, ends_now]
      refine ends_unless (fun hover => ⟨_, hmissed fun hgood => ?_, hahead⟩) fun hover => ?_
      · exact absurd hgood.notOver (Int.not_le.mpr (hw.now ▸ hover))
      · exact ⟨rfl, ⟨by simpa using hrange, Int.not_lt.mp (hw.now ▸ hover)⟩, hahead⟩

/-- A good token acts on the user whom it was issued for. It is taken out of the store before the
user is looked up; the user is there all the same. -/
theorem act_commits (hw : w.At time s) (hs : s.Sound) (life : Lifetime) (token : String)
    (tokenType : TokenType) {act : ResetToken → User → Op User} {ok : User → Commit → Prop}
    (hact : ∀ {row before w'}, s.findToken token tokenType = some row →
      s.users.get? before.id = some before → before.email = row.email →
      w'.Ahead time s (.consume row) →
      (act row before).Writes w' time s ok fun _ => False)
    (hok : ∀ user commit, ok user commit → ¬commit.IsRoleChange ∧ commit.newUser? = none) :
    (Op.withSlot do
      let row ← useToken life token tokenType
      let user ← found .owner (← read (·.findUserByEmail row.email))
      act row user).Commits w time s
        (fun user commit => ok user commit ∧ Accepts w life token tokenType)
        (Wastes w life token tokenType) := by
  cases hfree : w.slots.isFree with
  | false =>
      unfold Commits
      rw [ends_withSlot, hfree]
      exact ⟨_, Or.inl ⟨hfree, rfl⟩, hw.after⟩
  | true =>
      refine Writes.commits (Writes.withSlot hw (fun w₁ hw₁ => ?_)
        fun hbusy => absurd (hfree.symm.trans hbusy) (by simp)) (fun _ _ h => hok _ _ h.1) ?_
      · refine (useToken_ends hw₁ hs life token tokenType).next ?_ ?_
        · rintro row w₂ ⟨hfind, hgood, hahead⟩
          have haccepts : Accepts w life token tokenType :=
            ⟨hfree, row, by rw [hw.store]; exact hfind, by rw [hw.now]; exact hgood⟩
          obtain ⟨hget, -, -⟩ := findToken_eq_some hs hfind
          obtain ⟨id, owner, howner, hemail⟩ := hs.token_user hget
          obtain ⟨before, hbefore⟩ := Store.findUserByEmail_isSome hs howner
          obtain ⟨hthere, hsame⟩ := Store.findUserByEmail_eq_some hs hbefore
          have huser : (Commit.apply s (.consume row)).findUserByEmail row.email = some before :=
            hemail ▸ hbefore
          rw [ends_bind, ends_read, ends_bind, ends_found, hahead.store, huser]
          refine (hact hfind hthere (hsame.trans hemail) hahead).mono ?_
            fun _ _ ⟨_, h, _⟩ => h.elim
          rintro user w₃ ⟨commit, hcommit, hahead⟩
          exact ⟨commit, ⟨hcommit, haccepts⟩, hahead⟩
        · rintro failure w₂ ⟨commit, hmisses, hahead⟩
          refine ⟨commit, Or.inr ⟨hfree, ?_⟩, hahead⟩
          rw [hw.store, hw.now]
          exact hmisses
      · rintro _ (⟨-, rfl⟩ | ⟨-, ⟨-, rfl⟩ | ⟨row, -, -, rfl⟩⟩) <;> exact ⟨False.elim, rfl⟩

/-- The presented token is taken for another password of its user. -/
def Resets (s : Store) (payload : ResetApply) (user : User) (commit : Commit) : Prop :=
  ∃ row before identity, s.findToken payload.token .passwordReset = some row
    ∧ identity.HasPassword payload.password ∧ commit = .reset row before user identity

theorem applyPasswordReset_revises (hw : w.At time s) (hs : s.Sound) (life : Lifetime)
    (payload : ResetApply) :
    (applyPasswordReset life payload).Commits w time s
      (fun user commit => (Resets s payload user commit ∧ commit.Revises (User.revokedAt time))
        ∧ Accepts w life payload.token .passwordReset)
      (Wastes w life payload.token .passwordReset) := by
  refine act_commits hw hs life payload.token .passwordReset ?_ ?_
  · intro row before w₁ hfind hbefore hemail hahead
    obtain ⟨hget, -, htype⟩ := findToken_eq_some hs hfind
    obtain ⟨old, hold⟩ := hs.token_identity hget
    rw [htype, ← hemail] at hold
    replace hold : s.findIdentity before.email .email = some old := hold
    refine (ends_replacePassword (by rw [hahead.store]; exact hbefore)
      (by rw [hahead.store, ← hemail]; exact hold) payload.password).mono ?_ fun _ _ h => h.elim
    rintro user w₂ ⟨rfl, stored, hholds, hnow, hcache, hstore⟩
    refine ⟨_, ⟨⟨row, before, _, hfind, ⟨stored, rfl, hholds⟩, rfl⟩,
      (Commit.revises_iff rfl).mpr (by rw [hahead.now])⟩, hnow.trans hahead.now, ?_,
      hcache ▸ hahead.agrees, hget, htype, hemail.symm,
      ⟨hbefore, User.revokedAt_continues _ _⟩, repasswords hs hold hholds.readable⟩
    rw [hstore, hahead.store, ← hemail]
    exact (putUser_putIdentity_eq (hs.eraseToken row) (User.revokedAt_continues _ _).id
      hold).symm
  · rintro _ _ ⟨⟨row, before, identity, -, -, rfl⟩, -⟩
    exact ⟨False.elim, rfl⟩

theorem applyPasswordReset_commits (hw : w.At time s) (hs : s.Sound) (life : Lifetime)
    (payload : ResetApply) :
    (applyPasswordReset life payload).Commits w time s
      (fun user commit => Resets s payload user commit
        ∧ Accepts w life payload.token .passwordReset)
      (Wastes w life payload.token .passwordReset) :=
  (applyPasswordReset_revises hw hs life payload).mono (fun _ _ _ h => ⟨h.1.1, h.2⟩)
    fun _ _ h => h

/-- The presented token is taken for the verification of its user's address. -/
def Verifies (s : Store) (token : String) (user : User) (commit : Commit) : Prop :=
  ∃ row before identity, s.findToken token .emailVerify = some row
    ∧ commit = .verify row before user identity

/-- A user whose address has been verified. -/
def verifiedAt (time : Int) : User → User :=
  Store.applyUpdate (.utc time) { UpdateUser.nothing with emailVerified := some (some true) }

theorem applyEmailVerification_revises (hw : w.At time s) (hs : s.Sound) (life : Lifetime)
    (payload : EmailVerifyApply) :
    (applyEmailVerification life payload).Commits w time s
      (fun user commit => (Verifies s payload.token user commit ∧ commit.Revises (verifiedAt time))
        ∧ Accepts w life payload.token .emailVerify)
      (Wastes w life payload.token .emailVerify) := by
  refine act_commits hw hs life payload.token .emailVerify ?_ ?_
  · intro row before w₁ hfind hbefore hemail hahead
    obtain ⟨hget, -, htype⟩ := findToken_eq_some hs hfind
    obtain ⟨identity, hidentity⟩ := hs.token_identity hget
    replace hidentity : s.identities.get? (row.email, .unverifiedEmail) = some identity := by
      rw [htype] at hidentity
      exact hidentity
    have hrow : row.email = identity.email := (Prod.mk.inj (hs.identity_key hidentity)).1
    -- Were there a verified identity already, there would be no other one to verify.
    have hfree : s.identities.get? (identity.email, .email) = none := by
      refine Option.eq_none_iff_forall_ne_some.mpr fun other hother => ?_
      have hnone := hs.identity_exclusive hother
      rw [← hrow] at hnone
      cases hnone.symm.trans hidentity
    have hunverified : (Commit.apply s (.consume row)).findIdentity row.email
        .unverifiedEmail = some identity := hidentity
    unfold Writes
    rw [ends_bind, ends_write, hahead.store,
      Store.updateProvider_eq_ok (by rw [hrow]; exact hfree) hunverified]
    dsimp only
    rw [ends_bind, ends_now, ends_write, Store.updateUser, Store.modifyUser_eq_ok]
    swap
    · exact hbefore
    refine ⟨_, ⟨⟨row, before, identity, hfind, rfl⟩,
      (Commit.revises_iff rfl).mpr (by rw [hahead.now]; rfl)⟩, hahead.now, ?_, hahead.agrees,
      hget, htype, hemail.symm, ⟨hbefore, Store.applyUpdate_continues (Or.inr rfl)⟩, rfl,
      hemail.trans hrow, hrow ▸ hidentity, hfree⟩
    rw [hrow]
    rfl
  · rintro _ _ ⟨⟨row, before, identity, -, rfl⟩, -⟩
    exact ⟨False.elim, rfl⟩

theorem applyEmailVerification_commits (hw : w.At time s) (hs : s.Sound) (life : Lifetime)
    (payload : EmailVerifyApply) :
    (applyEmailVerification life payload).Commits w time s
      (fun user commit => Verifies s payload.token user commit
        ∧ Accepts w life payload.token .emailVerify)
      (Wastes w life payload.token .emailVerify) :=
  (applyEmailVerification_revises hw hs life payload).mono (fun _ _ _ h => ⟨h.1.1, h.2⟩)
    fun _ _ h => h

end Accounts.Credentials
