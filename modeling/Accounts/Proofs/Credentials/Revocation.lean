import Accounts.Proofs.Rows

/-!
# Sessions end when a password changes

A session token counts as revoked if it was issued before the moment that the row of its user
tells. That moment is the time at which the row was made, and it is set anew by three calls only:
where sessions are revoked as such, where a password is changed, and where it is reset
(`World.Settled.exec_revocations`). The last two are the only ones to replace a stored password
(`World.Settled.exec_passwords`). So nobody gets another password and keeps old sessions, and
as long as the clock does not go back, no session that was revoked comes to life again
(`revocation_follows`).
-/

namespace Accounts

open Op

/-! ## What was served -/

namespace Call

/-- The user to whom a call that was answered has given another password, and the password. -/
def repassword? : (call : Call) → call.Answer → Option (User × String)
  | changePassword _ payload, user => some (user, payload.newPassword)
  | applyPasswordReset _ payload, user => some (user, payload.password)
  | _, _ => none

/-- The user whose sessions a call that was answered has revoked. -/
def revoked? : (call : Call) → call.Answer → Option User
  | revokeTokens .., user | changePassword .., user | applyPasswordReset .., user => some user
  | _, _ => none

end Call

namespace Served

/-- The user who got another password, and the password. -/
def repassword? (served : Served) : Option (User × String) :=
  match served.result with
  | .ok answer => served.call.repassword? answer
  | .error _ => none

/-- The user whose sessions were revoked. -/
def revoked? (served : Served) : Option User :=
  match served.result with
  | .ok answer => served.call.revoked? answer
  | .error _ => none

end Served

/-! ## Commits -/

/-- An identity as it comes to be: it stays with its user and its address, and its provider changes
by verification only. -/
structure Identity.Continues (after before : Identity) : Prop where
  userId : after.userId = before.userId
  email : after.email = before.email
  provider : after.provider = before.provider
    ∨ before.provider = .unverifiedEmail ∧ after.provider = .email

theorem Identity.continues_refl (identity : Identity) : identity.Continues identity :=
  ⟨rfl, rfl, Or.inl rfl⟩

namespace Commit

/-- The user whose identity gets another password, the row that the commit puts in place, and that
identity. -/
def repassword? : Commit → Option (User × User × Identity)
  | repassword before after identity | reset _ before after identity =>
    some (before, after, identity)
  | _ => none

variable {s : Store}

theorem IsQuiet.repassword? {commit : Commit} (h : commit.IsQuiet) : commit.repassword? = none := by
  cases commit with
  | repassword | reset => exact h.elim
  | _ => rfl

theorem repassword?_spec {commit : Commit} {before after : User} {identity : Identity}
    (h : commit.Admissible s) (hrepassword : commit.repassword? = some (before, after, identity)) :
    Replaces s before after ∧ Repasswords s before identity
      ∧ commit.revision? = some (before, after)
      ∧ (commit.apply s).identities.get? (identity.email, identity.provider) = some identity := by
  cases commit with
  | repassword =>
      cases hrepassword
      exact ⟨h.1, h.2, rfl, Table.get?_put_self ..⟩
  | reset =>
      cases hrepassword
      exact ⟨h.2.2.2.1, h.2.2.2.2, rfl, Table.get?_put_self ..⟩
  | _ => cases hrepassword

/-- Whoever gets another password is the owner of the identity that had one before. -/
theorem Repasswords.owner (hs : s.Sound) {before : User} {identity : Identity}
    (h : Repasswords s before identity) (hbefore : s.users.get? before.id = some before) :
    identity.userId = before.id := by
  obtain ⟨old, stored, hold, rfl, -⟩ := h.found
  obtain ⟨owner, howner, hemail, -⟩ := hs.identity_verified hold
  exact hs.user_distinct howner hbefore (hemail.trans h.email.symm)

/-- Where an identity is put, every other one stays, and one with the same key is replaced. -/
theorem identity_putIdentity (hs : s.Sound) {key : String × Provider} {identity old : Identity}
    (hold : s.identities.get? key = some old)
    (hput : s.identities.get? (identity.email, identity.provider) = some old →
      identity.userId = old.userId) :
    ∃ later, (s.putIdentity identity).identities.get? (later.email, later.provider) = some later
      ∧ later.Continues old ∧ (later = old
        ∨ later = identity
          ∧ s.identities.get? (identity.email, identity.provider) = some old) := by
  have hkey := hs.identity_key hold
  by_cases hsame : (identity.email, identity.provider) = key
  · obtain ⟨hemail, hprovider⟩ := Prod.mk.inj (hsame.trans hkey)
    rw [← hsame] at hold
    exact ⟨identity, Table.get?_put_self .., ⟨hput hold, hemail, Or.inl hprovider⟩,
      Or.inr ⟨rfl, hold⟩⟩
  · refine ⟨old, ?_, old.continues_refl, Or.inl rfl⟩
    rw [← hkey, Store.putIdentity, Table.get?_put_of_ne _ _ hsame]
    exact hold

/-- No commit takes an identity away, and only one that says so gives it another password. -/
theorem identity_apply (hs : s.Sound) {commit : Commit} (h : commit.Admissible s)
    {key : String × Provider} {old : Identity} (hold : s.identities.get? key = some old) :
    ∃ later, (commit.apply s).identities.get? (later.email, later.provider) = some later
      ∧ later.Continues old
      ∧ (later.password = old.password
        ∨ ∃ before after, commit.repassword? = some (before, after, later)) := by
  have hkey := hs.identity_key hold
  have hsame : ∃ later, s.identities.get? (later.email, later.provider) = some later
      ∧ later.Continues old ∧ (later.password = old.password
        ∨ ∃ before after, commit.repassword? = some (before, after, later)) :=
    ⟨old, hkey ▸ hold, old.continues_refl, Or.inl rfl⟩
  -- A commit that brings a new identity leaves the old ones as they are.
  have hnew : ∀ {identity : Identity},
      s.identities.get? (identity.email, identity.provider) = none →
      ∃ later, (s.putIdentity identity).identities.get? (later.email, later.provider) = some later
        ∧ later.Continues old ∧ (later.password = old.password
          ∨ ∃ before after, commit.repassword? = some (before, after, later)) := by
    intro identity hnone
    have hput : s.identities.get? (identity.email, identity.provider) = some old →
        identity.userId = old.userId := fun hreplaced => nomatch hnone.symm.trans hreplaced
    obtain ⟨later, hlater, hcontinues, rfl | ⟨-, hreplaced⟩⟩ := identity_putIdentity hs hold hput
    · exact ⟨_, hlater, hcontinues, Or.inl rfl⟩
    · cases hnone.symm.trans hreplaced
  have hrepasswords : ∀ {before after : User} {identity : Identity},
      Repasswords s before identity → commit.repassword? = some (before, after, identity) →
      ∃ later, (s.putIdentity identity).identities.get? (later.email, later.provider) = some later
        ∧ later.Continues old ∧ (later.password = old.password
          ∨ ∃ before after, commit.repassword? = some (before, after, later)) := by
    intro before after identity hrepasswords hcommit
    have hput : s.identities.get? (identity.email, identity.provider) = some old →
        identity.userId = old.userId := by
      obtain ⟨replaced, stored, hreplaced, rfl, -⟩ := hrepasswords.found
      intro hhere
      rw [← (Prod.mk.inj (hs.identity_key hreplaced)).2, hreplaced, Option.some_inj] at hhere
      rw [hhere]
    obtain ⟨later, hlater, hcontinues, rfl | ⟨rfl, -⟩⟩ := identity_putIdentity hs hold hput
    · exact ⟨_, hlater, hcontinues, Or.inl rfl⟩
    · exact ⟨_, hlater, hcontinues, Or.inr ⟨before, after, hcommit⟩⟩
  cases commit with
  | enroll user identity role =>
      obtain ⟨-, hfree, -, hemail, -⟩ := h
      exact hnew (Store.identity_none_of_emailExists hs (hemail ▸ hfree) identity.provider)
  | link before after identity =>
      obtain ⟨-, -, -, hfree, -⟩ := h
      exact hnew hfree
  | repassword before after identity => exact hrepasswords h.2 rfl
  | reset row before after identity => exact hrepasswords h.2.2.2.2 rfl
  | verify row before after identity =>
      obtain ⟨-, -, -, -, -, -, hidentity, hfree⟩ := h
      have hverified : (identity.email, Provider.email) ≠ key := by
        rintro rfl
        cases hfree.symm.trans hold
      by_cases hhere : (identity.email, Provider.unverifiedEmail) = key
      · subst hhere
        obtain rfl : identity = old := Option.some.inj (hidentity.symm.trans hold)
        exact ⟨{ identity with provider := .email }, Table.get?_put_self ..,
          ⟨rfl, rfl, Or.inr ⟨(Prod.mk.inj hkey).2.symm, rfl⟩⟩, Or.inl rfl⟩
      · refine ⟨old, ?_, old.continues_refl, Or.inl rfl⟩
        rw [← hkey, Commit.identities_apply, Table.get?_put_of_ne _ _ hverified,
          Table.get?_erase_of_ne _ hhere]
        exact hold
  | _ => exact hsame

end Commit

/-! ## Calls -/

namespace Call

variable {w : World}

/-- A commit gives a user another password, and revokes the sessions. Without a user, it gives
nobody another one. -/
def Repasswords (time : Int) (commit : Commit) : Option (User × String) → Prop
  | some (user, password) => ∃ before identity,
    commit.repassword? = some (before, user, identity) ∧ identity.HasPassword password
      ∧ user = before.revokedAt time
  | none => commit.repassword? = none

/-- A commit revokes the sessions of a user. Without a user, it leaves all times of revocation. -/
def Revokes (time : Int) (commit : Commit) : Option User → Prop
  | some user => ∃ before, commit.revision? = some (before, user) ∧ user = before.revokedAt time
  | none => ∀ before after, commit.revision? = some (before, after) →
    after.revokeBefore = before.revokeBefore

/-- Two calls give another password, and they revoke the sessions with it. -/
theorem op_repasswords (hw : w.At w.now w.store) (hs : w.store.Sound) (call : Call) :
    call.op.Commits w w.now w.store
      (fun answer commit => Repasswords w.now commit (call.repassword? answer))
      (fun commit => Repasswords w.now commit none) := by
  have hquiet : ∀ commit, commit.Admissible w.store → commit.IsQuiet →
      Repasswords w.now commit none := fun commit _ h => h.repassword?
  cases call with
  | changePassword caller payload =>
      refine (Credentials.changePassword_revises hw hs caller payload).mono ?_ ?_
      · rintro user _ - ⟨⟨before, identity, -, hpassword, rfl⟩, hrevises⟩
        exact ⟨before, identity, rfl, hpassword, hrevises before user rfl⟩
      · rintro _ - rfl
        rfl
  | applyPasswordReset life payload =>
      refine (Credentials.applyPasswordReset_revises hw hs life payload).mono ?_ ?_
      · rintro user _ - ⟨⟨⟨row, before, identity, -, hpassword, rfl⟩, hrevises⟩, -⟩
        exact ⟨before, identity, rfl, hpassword, hrevises before user rfl⟩
      · rintro _ - hwastes
        rcases hwastes.spends with rfl | ⟨row, -, rfl⟩ <;> rfl
  | applyEmailVerification life payload =>
      refine (op_does hw hs (.applyEmailVerification life payload)).mono ?_ ?_
      · rintro user _ - ⟨⟨row, before, identity, -, rfl⟩, -⟩
        rfl
      · rintro commit - hwastes
        rcases Credentials.Wastes.spends hwastes with rfl | ⟨row, -, rfl⟩ <;> rfl
  | createUser payload address =>
      refine (op_does hw hs (.createUser payload address)).mono ?_ hquiet
      rintro user _ - ⟨identity, role, rfl, -⟩
      rfl
  | requestPasswordReset caller payload =>
      refine (op_does hw hs (.requestPasswordReset caller payload)).mono ?_ hquiet
      rintro row _ - ⟨user, -, -, -, rfl⟩
      rfl
  | requestEmailVerification caller payload =>
      refine (op_does hw hs (.requestEmailVerification caller payload)).mono ?_ hquiet
      rintro row _ - ⟨user, -, -, -, rfl⟩
      rfl
  | _ =>
      exact (op_does hw hs _).mono (fun _ commit hadmissible h => hquiet commit hadmissible h)
        hquiet

/-- What a call that revokes no sessions makes of a row has the time of revocation from before. -/
theorem revised_revokeBefore {call : Call} (h : ∀ answer, call.revoked? answer = none) (time : Int)
    (before : User) : (call.revised time before).revokeBefore = before.revokeBefore := by
  cases call with
  | revokeTokens | changePassword | applyPasswordReset => cases h before
  | signInWithProvider codec providers provider payload =>
      cases hfetched : SignIn.fetched providers provider payload.token <;>
        simp only [revised, hfetched] <;> rfl
  | _ => rfl

/-- Whoever is made a user starts without sessions from before. -/
theorem newcomer?_revokeBefore {call : Call} {time id : Int} {sagaId : JsonString} {user : User}
    (h : call.newcomer? time id sagaId = some user) : user.revokeBefore = .utc time := by
  cases call with
  | createUser | createOrLink =>
      cases h
      rfl
  | signInWithProvider codec providers provider payload =>
      unfold newcomer? at h
      dsimp only at h
      split at h
      · cases h
        rfl
      · cases h
  | _ => cases h

/-- Three calls revoke sessions. -/
theorem op_revokes (hw : w.At w.now w.store) (hs : w.store.Sound) (call : Call) :
    call.op.Commits w w.now w.store
      (fun answer commit => Revokes w.now commit (call.revoked? answer))
      (fun commit => Revokes w.now commit none) := by
  have hother : (∀ answer, call.revoked? answer = none) → call.op.Commits w w.now w.store
      (fun answer commit => Revokes w.now commit (call.revoked? answer))
      (fun commit => Revokes w.now commit none) := by
    intro hnobody
    have hrevokes : ∀ commit, call.Records w.now w.store commit → Revokes w.now commit none :=
      fun commit h before after hrevision =>
        h.revises before after hrevision ▸ revised_revokeBefore hnobody w.now before
    refine (call.op_records hw hs).mono (fun answer commit _ h => ?_)
      fun commit _ h => hrevokes commit h.1
    rw [hnobody]
    exact hrevokes commit h
  have hnothing : Revokes w.now .nothing none := fun _ _ h => nomatch h
  cases call with
  | revokeTokens caller id =>
      refine (Users.revokeTokens_commits hw hs caller id).mono ?_ ?_
      · rintro user _ - ⟨before, -, rfl, rfl⟩
        exact ⟨before, rfl, rfl⟩
      · rintro _ - rfl
        exact hnothing
  | changePassword caller payload =>
      refine (Credentials.changePassword_revises hw hs caller payload).mono ?_ ?_
      · rintro user _ - ⟨⟨before, identity, -, -, rfl⟩, hrevises⟩
        exact ⟨before, rfl, hrevises before user rfl⟩
      · rintro _ - rfl
        exact hnothing
  | applyPasswordReset life payload =>
      refine (Credentials.applyPasswordReset_revises hw hs life payload).mono ?_ ?_
      · rintro user _ - ⟨⟨⟨row, before, identity, -, -, rfl⟩, hrevises⟩, -⟩
        exact ⟨before, rfl, hrevises before user rfl⟩
      · rintro _ - hwastes
        rcases hwastes.spends with rfl | ⟨row, -, rfl⟩
        · exact hnothing
        · exact fun _ _ h => nomatch h
  | _ => exact hother fun _ => rfl

end Call

/-! ## Events -/

namespace World

/-- What is served by an event. -/
def served? (w : World) (event : Event) : Option Served := (w.callOf? event).map (·.servedIn w)

/-- The user who gets another password by an event, and the password. -/
def repassword? (w : World) (event : Event) : Option (User × String) :=
  (w.served? event).bind (·.repassword?)

/-- The user whose sessions are revoked by an event. -/
def revoked? (w : World) (event : Event) : Option User := (w.served? event).bind (·.revoked?)

variable {w : World}

/-- An event makes one commit at most. What every call is known to commit, by what is seen of it
once it was served, is known of the event. -/
theorem step_commits {α : Type} {seen : Served → Option α} {tells : Commit → Option α → Prop}
    (hnothing : tells .nothing none)
    (hfailed : ∀ call free failure, seen ⟨call, free, .error failure⟩ = none)
    (hcall : ∀ call : Call, call.op.Commits w w.now w.store
      (fun answer commit => tells commit (seen ⟨call, w.slots.isFree, .ok answer⟩))
      (fun commit => tells commit none)) (event : Event) :
    ∃ commit, commit.Admissible w.store ∧ (w.step event).store = commit.apply w.store
      ∧ tells commit ((w.served? event).bind seen) := by
  rw [step_store]
  unfold served?
  cases w.callOf? event with
  | none => exact ⟨.nothing, trivial, rfl, hnothing⟩
  | some call =>
      rw [Option.map_some, Option.bind_some, Call.servedIn]
      rcases (hcall call).cases with
        ⟨failure, w', hexec, commit, hcommit, hafter⟩ |
        ⟨answer, w', hexec, commit, hcommit, hafter⟩
      · refine ⟨commit, hafter.admissible, ?_, ?_⟩
        · dsimp only
          rw [hexec, hafter.at_apply.store]
        · rw [hexec, hfailed]
          exact hcommit
      · refine ⟨commit, hafter.admissible, ?_, ?_⟩
        · dsimp only
          rw [hexec, hafter.at_apply.store]
        · rw [hexec]
          exact hcommit

theorem Settled.step_repasswords (h : w.Settled) (event : Event) :
    ∃ commit, commit.Admissible w.store ∧ (w.step event).store = commit.apply w.store
      ∧ Call.Repasswords w.now commit (w.repassword? event) :=
  step_commits rfl (fun _ _ _ => rfl) (fun call => call.op_repasswords h.at_store h.sound) event

theorem Settled.step_revokes (h : w.Settled) (event : Event) :
    ∃ commit, commit.Admissible w.store ∧ (w.step event).store = commit.apply w.store
      ∧ Call.Revokes w.now commit (w.revoked? event) :=
  step_commits (fun _ _ h => nomatch h) (fun _ _ _ => rfl)
    (fun call => call.op_revokes h.at_store h.sound) event

/-- Whoever gets another password had a verified one. The new one stands in its place, and the
sessions from before are revoked. -/
theorem Settled.repassword_step (h : w.Settled) {event : Event} {user : User} {password : String}
    (hevent : w.repassword? event = some (user, password)) :
    ∃ old stored, w.store.identities.get? (user.email, .email) = some old ∧ old.userId = user.id
      ∧ Password.Holds stored password
      ∧ (w.step event).store.identities.get? (user.email, .email)
        = some { old with password := some stored }
      ∧ (w.step event).store.users.get? user.id = some user ∧ user.revokeBefore = .utc w.now := by
  obtain ⟨commit, hadmissible, hstore, hcommit⟩ := h.step_repasswords event
  rw [hevent] at hcommit
  obtain ⟨before, identity, hrepassword, ⟨stored, hstored, hholds⟩, rfl⟩ := hcommit
  obtain ⟨hreplaces, hrepasswords, hrevision, hput⟩ :=
    Commit.repassword?_spec hadmissible hrepassword
  have howner := hrepasswords.owner h.sound hreplaces.found
  obtain ⟨old, other, hold, rfl, -⟩ := hrepasswords.found
  obtain rfl : other = stored := Option.some.inj hstored
  have hkey := h.sound.identity_key hold
  have hemail : (before.revokedAt w.now).email = old.email := hrepasswords.email
  rw [hstore, hemail]
  refine ⟨old, other, hold, howner, hholds, ?_, Commit.revision?_spec hrevision, rfl⟩
  rw [(Prod.mk.inj hkey).2]
  exact hput

/-- An identity stays, and its password stays unless its owner gets another one. -/
theorem Settled.password_step (h : w.Settled) (event : Event) {key : String × Provider}
    {old : Identity} (hold : w.store.identities.get? key = some old) :
    ∃ later, (w.step event).store.identities.get? (later.email, later.provider) = some later
      ∧ later.Continues old
      ∧ (later.password = old.password
        ∨ ∃ user password, w.repassword? event = some (user, password)
          ∧ user.id = old.userId ∧ (w.step event).store.users.get? user.id = some user
          ∧ user.revokeBefore = .utc w.now) := by
  obtain ⟨commit, hadmissible, hstore, hcommit⟩ := h.step_repasswords event
  obtain ⟨later, hlater, hcontinues, hpassword⟩ :=
    Commit.identity_apply h.sound hadmissible hold
  rw [hstore]
  refine ⟨later, hlater, hcontinues, hpassword.imp_right ?_⟩
  rintro ⟨before, after, hrepassword⟩
  obtain ⟨hreplaces, hrepasswords, hrevision, -⟩ :=
    Commit.repassword?_spec hadmissible hrepassword
  cases hevent : w.repassword? event with
  | none =>
      rw [hevent] at hcommit
      cases hcommit.symm.trans hrepassword
  | some seen =>
      obtain ⟨user, password⟩ := seen
      rw [hevent] at hcommit
      obtain ⟨_, _, hother, -, rfl⟩ := hcommit
      cases hother.symm.trans hrepassword
      refine ⟨_, password, rfl, ?_, Commit.revision?_spec hrevision, rfl⟩
      exact (hrepasswords.owner h.sound hreplaces.found).symm.trans hcontinues.userId

/-- A user stays, and keeps the time of revocation unless the sessions are revoked. -/
theorem Settled.revocation_step (h : w.Settled) (event : Event) {id : Int} {before : User}
    (hbefore : w.store.users.get? id = some before) :
    ∃ after, (w.step event).store.users.get? id = some after
      ∧ (after.revokeBefore = before.revokeBefore
        ∨ w.revoked? event = some after ∧ after.revokeBefore = .utc w.now) := by
  obtain ⟨commit, hadmissible, hstore, hcommit⟩ := h.step_revokes event
  obtain ⟨after, hafter, -⟩ := Commit.continues_apply h.sound hadmissible hbefore
  rw [hstore]
  refine ⟨after, hafter, ?_⟩
  rcases Commit.row_apply hadmissible hafter with hsame | ⟨old, hold, hrevision⟩ | hnew
  · cases hbefore.symm.trans hsame
    exact Or.inl rfl
  · cases hbefore.symm.trans hold
    cases hevent : w.revoked? event with
    | none =>
        rw [hevent] at hcommit
        exact Or.inl (hcommit before after hrevision)
    | some user =>
        rw [hevent] at hcommit
        obtain ⟨_, hother, rfl⟩ := hcommit
        cases hother.symm.trans hrevision
        exact Or.inr ⟨rfl, rfl⟩
  · obtain ⟨hfree, hthere, -⟩ := Commit.newUser?_spec h.sound hadmissible hnew
    have hid := ((Commit.sound_apply h.sound hadmissible).user_id hafter).1
    rw [hid, hbefore] at hfree
    cases hfree

/-- Sessions were revoked in the past. -/
def Stamped (w : World) : Prop :=
  ∀ id user, w.store.users.get? id = some user →
    ∃ micros ≤ w.now, user.revokeBefore = .utc micros

/-- **Step.** As long as the clock does not go back, sessions were revoked in the past. -/
theorem Settled.stamped_step (h : w.Settled) (hstamped : w.Stamped) {event : Event}
    (hclock : w.now ≤ (w.step event).now) : (w.step event).Stamped := by
  intro id after hafter
  cases hbefore : w.store.users.get? id with
  | some before =>
      obtain ⟨_, hsame, hrevoke⟩ := h.revocation_step event hbefore
      cases hafter.symm.trans hsame
      rcases hrevoke with hkept | ⟨-, hnow⟩
      · obtain ⟨micros, hle, hmicros⟩ := hstamped id before hbefore
        exact ⟨micros, hle.trans hclock, hkept.trans hmicros⟩
      · exact ⟨w.now, hclock, hnow⟩
  | none =>
      rw [step_store] at hafter
      cases hcall : w.callOf? event with
      | none =>
          rw [hcall] at hafter
          cases hbefore.symm.trans hafter
      | some call =>
          rw [hcall] at hafter
          rcases h.row_exec call hafter with hsame | ⟨before, hthere, -⟩ | ⟨-, sagaId, hnew⟩
          · cases hbefore.symm.trans hsame
          · cases hbefore.symm.trans hthere
          · exact ⟨w.now, hclock, Call.newcomer?_revokeBefore hnew⟩

/-- The clock does not go back in a run. -/
def Forward (w : World) : List Event → Prop
  | [] => True
  | event :: rest => w.now ≤ (w.step event).now ∧ (w.step event).Forward rest

instance decidableForward : (w : World) → (events : List Event) → Decidable (w.Forward events)
  | _, [] => isTrue trivial
  | w, event :: rest =>
    have := decidableForward (w.step event) rest
    inferInstanceAs (Decidable (_ ∧ _))

theorem forward_append {events later : List Event} :
    w.Forward (events ++ later) ↔ w.Forward events ∧ (w.run events).Forward later := by
  induction events generalizing w with
  | nil => exact ⟨fun h => ⟨trivial, h⟩, fun h => h.2⟩
  | cons event rest ih =>
      have hrun : w.run (event :: rest) = (w.step event).run rest := rfl
      rw [List.cons_append, Forward, Forward, ih, hrun, and_assoc]

/-- **Run.** As long as the clock does not go back, sessions were revoked in the past. -/
theorem Settled.stamped_run (h : w.Settled) (hstamped : w.Stamped) {events : List Event}
    (hclock : w.Forward events) : (w.run events).Stamped := by
  induction events generalizing w with
  | nil => exact hstamped
  | cons event rest ih => exact ih (h.step event) (h.stamped_step hstamped hclock.1) hclock.2

theorem IsInitial.stamped (h : w.IsInitial) : w.Stamped := by
  intro id user huser
  rw [h.store] at huser
  cases huser

/-- **Run.** As long as the clock does not go back, no user's sessions come to life again. -/
theorem Settled.revocation_run (h : w.Settled) (hstamped : w.Stamped) {events : List Event}
    (hclock : w.Forward events) {id : Int} {before : User}
    (hbefore : w.store.users.get? id = some before) :
    ∃ after, (w.run events).store.users.get? id = some after
      ∧ before.revokeBefore.instant ≤ after.revokeBefore.instant := by
  induction events generalizing w before with
  | nil => exact ⟨before, hbefore, le_rfl⟩
  | cons event rest ih =>
      obtain ⟨next, hnext, hrevoke⟩ := h.revocation_step event hbefore
      have hle : before.revokeBefore.instant ≤ next.revokeBefore.instant := by
        rcases hrevoke with hkept | ⟨-, hnow⟩
        · rw [hkept]
        · obtain ⟨micros, hle, hmicros⟩ := hstamped id before hbefore
          rw [hmicros, hnow]
          exact Int.sub_le_sub_right hle _
      obtain ⟨after, hafter, hlater⟩ :=
        ih (h.step event) (h.stamped_step hstamped hclock.1) hclock.2 hnext
      exact ⟨after, hafter, hle.trans hlater⟩

end World

/-- **Revocation is monotone and follows every password.** As long as the clock does not go back,
the time before which the sessions of a user are revoked never does either. Whatever gives somebody
another password puts it in the place of one that was there, and sets this time to the present one
for its owner; no password of an identity that is there is replaced in another way. And the time of
a user who is there changes only where the user's sessions are revoked, alone or with a password. -/
theorem revocation_follows (start : World) (hstart : start.IsInitial) (events later : List Event)
    (hclock : start.Forward (events ++ later)) :
    (∀ id before, (start.run events).store.users.get? id = some before →
        ∃ after, (start.run (events ++ later)).store.users.get? id = some after
          ∧ before.revokeBefore.instant ≤ after.revokeBefore.instant)
      ∧ ∀ event, let w := start.run events; let w' := w.step event
        (∀ user password, w.repassword? event = some (user, password) →
          ∃ old stored, w.store.identities.get? (user.email, .email) = some old
            ∧ old.userId = user.id ∧ Password.Holds stored password
            ∧ w'.store.identities.get? (user.email, .email)
              = some { old with password := some stored }
            ∧ w'.store.users.get? user.id = some user ∧ user.revokeBefore = .utc w.now)
        ∧ (∀ key old, w.store.identities.get? key = some old →
          ∃ identity, w'.store.identities.get? (identity.email, identity.provider) = some identity
            ∧ identity.Continues old
            ∧ (identity.password = old.password
              ∨ ∃ user password, w.repassword? event = some (user, password)
                ∧ user.id = old.userId ∧ w'.store.users.get? user.id = some user
                ∧ user.revokeBefore = .utc w.now))
        ∧ ∀ id before, w.store.users.get? id = some before →
          ∃ after, w'.store.users.get? id = some after
            ∧ (after.revokeBefore = before.revokeBefore
              ∨ w.revoked? event = some after ∧ after.revokeBefore = .utc w.now) := by
  have hw := hstart.settled.run events
  obtain ⟨hpast, hrest⟩ := World.forward_append.mp hclock
  refine ⟨fun id before hbefore => ?_, fun event => ⟨fun user password hevent =>
    hw.repassword_step hevent, fun key old hold => hw.password_step event hold,
    fun id before hbefore => hw.revocation_step event hbefore⟩⟩
  have hstamped := hstart.settled.stamped_run hstart.stamped hpast
  have hrun : start.run (events ++ later) = (start.run events).run later :=
    List.foldl_append ..
  rw [hrun]
  exact hw.revocation_run hstamped hrest hbefore

/-- Somebody signs up, verifies the address, and changes the password five seconds later. -/
theorem revocation_follows_of_change :
    let start : World := ⟨0, .empty, .empty 600 0, ⟨2, 0, true⟩, .start [], []⟩
    let events : List Event :=
      [.call (.createUser ⟨"ann@example.com", "password1", none⟩ Email.isAddress_plain),
        .call (.requestEmailVerification .system ⟨"ann@example.com"⟩),
        .call (.applyEmailVerification 3600000000 ⟨"reset-token-0001"⟩),
        .meanwhile 5000000 ⟨2, 0, true⟩ (.start []) []]
    let change : Event := .call (.changePassword ⟨some 1, some (.text "ann@example.com"), .user 1⟩
      ⟨"password1", "password2"⟩)
    start.Forward (events ++ [change])
      ∧ (∃ before after, (start.run events).store.users.get? 1 = some before
        ∧ (start.run (events ++ [change])).store.users.get? 1 = some after
        ∧ before.revokeBefore.instant ≤ after.revokeBefore.instant)
      ∧ ∃ user old stored, ((start.run events).step change).store.users.get? user.id = some user
        ∧ user.revokeBefore = .utc 5000000 ∧ Password.Holds stored "password2"
        ∧ (start.run events).store.identities.get? (user.email, .email) = some old
        ∧ ((start.run events).step change).store.identities.get? (user.email, .email)
          = some { old with password := some stored } := by
  intro start events change
  have hstart : start.IsInitial := ⟨rfl, rfl⟩
  have hclock : start.Forward (events ++ [change]) := by decide +kernel
  have huser : ((start.run events).store.users.get? 1).isSome := by decide +kernel
  have hchange : ((start.run events).repassword? change).map (·.2) = some "password2" := by
    decide +kernel
  have htime : (start.run events).now = 5000000 := rfl
  obtain ⟨before, hbefore⟩ := Option.isSome_iff_exists.mp huser
  obtain ⟨⟨user, password⟩, hevent, rfl⟩ := Option.map_eq_some_iff.mp hchange
  obtain ⟨hmonotone, hevents⟩ := revocation_follows start hstart events [change] hclock
  obtain ⟨after, hafter, hle⟩ := hmonotone 1 before hbefore
  obtain ⟨old, stored, hold, -, hholds, hnew, hrow, hnow⟩ := (hevents change).1 user _ hevent
  exact ⟨hclock, ⟨before, after, hbefore, hafter, hle⟩, user, old, stored, hrow,
    hnow.trans (congrArg Timestamp.utc htime), hholds, hold, hnew⟩

end Accounts
