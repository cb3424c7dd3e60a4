import Accounts.Proofs.History

/-!
# What calls write into rows

A call replaces one user's row at most, makes one user at most and grants one role at most, and what
it writes is told by the call, the time and the row that was there (`Call.Records`). So a row after
a call is the row from before, or what the call has made of it, or the row of a new user
(`World.Settled.row_exec`), and a user that is answered has the answer as its row
(`World.Settled.exec_answers`): a statement about all users of all runs, stored or answered, is
proved by looking at the rows that calls write.
-/

namespace Accounts

open Op

namespace Call

/-- What a call makes of the row of the user whom it changes. -/
def revised (time : Int) : Call → User → User
  | updateUser _ _ payload => Store.applyUpdate (.utc time) payload.toUpdateUser
  | deactivateUser .. =>
    Store.applyUpdate (.utc time) { UpdateUser.nothing with isActive := some (some false) }
  | revokeTokens .. | changePassword .. | applyPasswordReset .. => User.revokedAt time
  | applyEmailVerification .. => Credentials.verifiedAt time
  | signInWithPassword .. => SignIn.loggedInAt time
  | createOrLink profile _ => SignIn.filledBy profile time
  | signInWithProvider _ providers provider payload =>
    match SignIn.fetched providers provider payload.token with
    | .ok profile => SignIn.filledBy profile time
    | .error _ => id
  | _ => id

/-- The user whom a call makes, with an id and a saga id. -/
def newcomer? (time id : Int) (sagaId : JsonString) : Call → Option User
  | createUser payload _ => some (Users.signedUp payload id time sagaId)
  | createOrLink profile _ => some (SignIn.userOf profile id time sagaId)
  | signInWithProvider _ providers provider payload =>
    match SignIn.fetched providers provider payload.token with
    | .ok profile => some (SignIn.userOf profile id time sagaId)
    | .error _ => none
  | _ => none

/-- The role that a call grants as such, and to whom. -/
def grant? : Call → Option NewUserRole
  | createRole _ payload => some payload
  | createDefaultRole _ userId => some ⟨userId, Roles.defaultRole⟩
  | _ => none

/-- What a commit writes is what the call tells. -/
structure Records (call : Call) (time : Int) (s : Store) (commit : Commit) : Prop where
  revises : commit.Revises (call.revised time)
  enrolls : ∀ user, commit.newUser? = some user →
    ∃ sagaId, call.newcomer? time s.nextUserId sagaId = some user
  grants : ∀ role, commit.granted? = some role → call.grant? = some ⟨role.userId, role.role⟩

variable {w : World} {time : Int} {s : Store} {call : Call} {commit : Commit}

/-- A commit that neither makes a user nor grants a role. -/
theorem records_of_revises (hrevises : commit.Revises (call.revised time))
    (hnew : commit.newUser? = none) (hgrant : commit.granted? = none) :
    call.Records time s commit where
  revises := hrevises
  enrolls _ huser := by
    rw [hnew] at huser
    cases huser
  grants _ hrole := by
    rw [hgrant] at hrole
    cases hrole

/-- Where no row of a user is replaced, it does not matter what would be made of it. -/
theorem records_of_revision? (hrevision : commit.revision? = none)
    (hnew : commit.newUser? = none) (hgrant : commit.granted? = none) :
    call.Records time s commit :=
  records_of_revises (fun _ _ h => by rw [hrevision] at h; cases h) hnew hgrant

theorem records_nothing (call : Call) : call.Records time s .nothing :=
  records_of_revision? rfl rfl rfl

/-- Who is made by a call is the one that it tells. -/
theorem records_of_enroll {user : User} {identity : Identity} {role : UserRole}
    {sagaId : JsonString} (hnewcomer : call.newcomer? time s.nextUserId sagaId = some user) :
    call.Records time s (.enroll user identity role) where
  revises _ _ h := by cases h
  enrolls other hother := ⟨sagaId, hnewcomer.trans hother⟩
  grants _ h := by cases h

theorem records_of_grant {role : UserRole} {payload : NewUserRole}
    (hgrant : call.grant? = some payload) (hown : role.userId = payload.userId)
    (hrole : role.role = payload.role) : call.Records time s (.grant role) where
  revises _ _ h := by cases h
  enrolls _ h := by cases h
  grants other hother := by
    cases hother
    rw [hgrant, hown, hrole]

/-- A profile writes what it comes to. -/
theorem records_of_comes {profile : Profile} {reconciled : SignIn.Reconciled}
    (h : SignIn.Comes s time profile reconciled commit)
    (hrevised : call.revised time = SignIn.filledBy profile time)
    (hnewcomer : ∀ id sagaId, call.newcomer? time id sagaId
      = some (SignIn.userOf profile id time sagaId)) : call.Records time s commit := by
  cases h with
  | returning known => exact records_nothing call
  | linked sagaId fresh found =>
      exact records_of_revises ((Commit.revises_iff rfl).mpr (by rw [hrevised])) rfl rfl
  | created sagaId fresh unfound => exact records_of_enroll (hnewcomer _ sagaId)

/-- Every call writes what it tells, and a call that fails grants nothing. -/
theorem op_records (hw : w.At time s) (hs : s.Sound) (call : Call) :
    call.op.Commits w time s (fun _ commit => call.Records time s commit)
      (fun commit => call.Records time s commit ∧ commit.granted? = none) := by
  have hnothing : ∀ commit, commit.Admissible s → commit = .nothing →
      call.Records time s commit ∧ commit.granted? = none := by
    rintro _ - rfl
    exact ⟨records_nothing call, rfl⟩
  have hkeeps : call.op.Keeps w time s → call.op.Commits w time s
      (fun _ commit => call.Records time s commit)
      (fun commit => call.Records time s commit ∧ commit.granted? = none) :=
    fun h => h.commits.mono (fun _ commit hadmissible h => (hnothing commit hadmissible h).1)
      hnothing
  have hchanges : ∀ {caller action f} (user : User) (commit : Commit), call.revised time = f →
      Users.Changes s caller action f user commit → call.Records time s commit := by
    rintro caller action f user _ hf ⟨before, -, -, rfl⟩
    exact records_of_revises ((Commit.revises_iff rfl).mpr (by rw [hf])) rfl rfl
  have hwastes : ∀ {life token tokenType} (commit : Commit), commit.Admissible s →
      Credentials.Wastes w life token tokenType commit →
      call.Records time s commit ∧ commit.granted? = none := by
    rintro life token tokenType _ - (⟨-, rfl⟩ | ⟨-, ⟨-, rfl⟩ | ⟨row, -, -, rfl⟩⟩)
    · exact ⟨records_nothing call, rfl⟩
    · exact ⟨records_nothing call, rfl⟩
    · exact ⟨records_of_revision? rfl rfl rfl, rfl⟩
  cases call with
  | getUser caller id => exact hkeeps (Users.get_keeps hw caller id)
  | currentUser caller => exact hkeeps (Users.current_keeps hw caller)
  | findUserBySagaId caller sagaId => exact hkeeps (Users.findBySagaId_keeps hw caller sagaId)
  | listUsers caller fromId count => exact hkeeps (Users.list_keeps hw caller fromId count)
  | createUser payload address =>
      refine (Users.create_makes hw hs address).mono ?_ hnothing
      rintro user _ - ⟨⟨identity, role, rfl, -⟩, sagaId, rfl⟩
      exact records_of_enroll rfl
  | updateUser caller id payload =>
      exact (Users.update_commits hw hs caller id payload).mono
        (fun user commit _ h => hchanges user commit rfl h) hnothing
  | deactivateUser caller id =>
      exact (Users.deactivate_commits hw hs caller id).mono
        (fun user commit _ h => hchanges user commit rfl h) hnothing
  | revokeTokens caller id =>
      exact (Users.revokeTokens_commits hw hs caller id).mono
        (fun user commit _ h => hchanges user commit rfl h) hnothing
  | listRoles caller userId => exact hkeeps (Roles.list_keeps hw caller userId)
  | createRole caller payload =>
      refine (Roles.create_commits hw hs caller payload).mono ?_ hnothing
      rintro role _ - ⟨-, hown, hrole, rfl⟩
      exact records_of_grant rfl hown hrole
  | createDefaultRole caller userId =>
      refine (Roles.createDefault_commits hw hs caller userId).mono ?_ hnothing
      rintro role _ - ⟨-, hown, hrole, rfl⟩
      exact records_of_grant rfl hown hrole
  | deleteRole caller id =>
      refine (Roles.delete_commits hw hs caller id).mono ?_ hnothing
      rintro role _ - ⟨-, rfl⟩
      exact records_of_revision? rfl rfl rfl
  | deleteRoles caller userId =>
      refine (Roles.deleteAll_commits hw hs caller userId).mono ?_ hnothing
      rintro roles _ - ⟨-, rfl⟩
      exact records_of_revision? rfl rfl rfl
  | changePassword caller payload =>
      refine (Credentials.changePassword_revises hw hs caller payload).mono ?_ hnothing
      rintro user _ - ⟨⟨before, identity, -, -, rfl⟩, hrevises⟩
      exact records_of_revises hrevises rfl rfl
  | requestPasswordReset caller payload =>
      refine (Credentials.requestPasswordReset_commits hw hs caller payload).mono ?_ hnothing
      rintro row _ - ⟨user, -, -, -, rfl⟩
      exact records_of_revision? rfl rfl rfl
  | applyPasswordReset life payload =>
      refine (Credentials.applyPasswordReset_revises hw hs life payload).mono ?_ hwastes
      rintro user _ - ⟨⟨⟨row, before, identity, -, -, rfl⟩, hrevises⟩, -⟩
      exact records_of_revises hrevises rfl rfl
  | requestEmailVerification caller payload =>
      refine (Credentials.requestEmailVerification_commits hw hs caller payload).mono ?_ hnothing
      rintro row _ - ⟨user, -, -, -, rfl⟩
      exact records_of_revision? rfl rfl rfl
  | applyEmailVerification life payload =>
      refine (Credentials.applyEmailVerification_revises hw hs life payload).mono ?_ hwastes
      rintro user _ - ⟨⟨⟨row, before, identity, -, rfl⟩, hrevises⟩, -⟩
      exact records_of_revises hrevises rfl rfl
  | signInWithPassword codec payload =>
      have hlogsIn : ∀ commit, SignIn.LogsIn payload.email commit
            ∧ commit.Revises (SignIn.loggedInAt time) →
          (signInWithPassword codec payload).Records time s commit
            ∧ commit.granted? = none := by
        rintro _ ⟨⟨before, after, -, rfl⟩, hrevises⟩
        exact ⟨records_of_revises hrevises rfl rfl, rfl⟩
      exact (SignIn.withPassword_revises hw hs codec payload).mono
        (fun _ commit _ h => (hlogsIn commit h).1)
        fun commit hadmissible h => h.elim (hnothing commit hadmissible) (hlogsIn commit)
  | signInWithProvider codec providers provider payload =>
      have hcomes : ∀ commit, commit.Admissible s →
          SignIn.ComesBy s time providers provider payload.token commit →
          (signInWithProvider codec providers provider payload).Records time s commit
            ∧ commit.granted? = none := by
        rintro commit hadmissible (h | ⟨profile, reconciled, hfetched, hcomes⟩)
        · exact hnothing commit hadmissible h
        · refine ⟨records_of_comes hcomes ?_ fun id sagaId => ?_, ?_⟩
          · simp only [revised, hfetched]
          · simp only [newcomer?, hfetched]
          · cases hcomes <;> rfl
      exact (SignIn.withProvider_comes hw hs codec providers provider payload).mono
        (fun _ commit hadmissible h => (hcomes commit hadmissible h).1) hcomes
  | createOrLink profile address =>
      refine (SignIn.createOrLink_comes hw hs address).mono ?_
        fun commit hadmissible h => hnothing commit hadmissible h.1
      rintro email commit - ⟨-, reconciled, hcomes⟩
      exact records_of_comes hcomes rfl fun _ _ => rfl

end Call

/-! ## Answers -/

namespace Call

/-- The users that a call answers with. -/
def users : (call : Call) → call.Answer → List User
  | getUser .., user | currentUser .., user | findUserBySagaId .., user | createUser .., user
  | updateUser .., user | deactivateUser .., user | revokeTokens .., user
  | changePassword .., user | applyPasswordReset .., user | applyEmailVerification .., user =>
    [user]
  | listUsers .., users => users
  | _, _ => []

variable {w : World} {time : Int} {s : Store}

/-- Every user that a call answers with has this row after it. -/
theorem op_answers (hw : w.At time s) (hs : s.Sound) (call : Call) :
    call.op.Commits w time s
      (fun answer commit => ∀ user ∈ call.users answer,
        (commit.apply s).users.get? user.id = some user)
      (fun _ => True) := by
  have hone : ∀ {commit : Commit} {user : User},
      (commit.apply s).users.get? user.id = some user →
      ∀ other ∈ [user], (commit.apply s).users.get? other.id = some other :=
    fun h _ hmem => List.mem_singleton.mp hmem ▸ h
  have hfound : ∀ {id : Int} {user : User}, s.users.get? id = some user →
      s.users.get? user.id = some user :=
    fun h => (hs.user_id h).1 ▸ h
  have hchanges : ∀ {caller action f} (user : User) (commit : Commit), commit.Admissible s →
      Users.Changes s caller action f user commit →
      ∀ other ∈ [user], (commit.apply s).users.get? other.id = some other := by
    rintro caller action f user _ - ⟨before, -, rfl, rfl⟩
    exact hone (Commit.revision?_spec rfl)
  have hnobody : (∀ answer, call.users answer = []) → call.op.Commits w time s
      (fun answer commit => ∀ user ∈ call.users answer,
        (commit.apply s).users.get? user.id = some user) (fun _ => True) := by
    intro hnone
    refine (call.op_records hw hs).mono (fun answer _ _ _ user hmem => ?_) fun _ _ _ => trivial
    rw [hnone] at hmem
    cases hmem
  cases call with
  | getUser caller id =>
      refine (Users.get_finds hw caller id).commits.mono ?_ fun _ _ _ => trivial
      rintro user _ - ⟨rfl, hfind⟩
      exact hone (hfound hfind)
  | currentUser caller =>
      refine (Users.current_finds hw caller).commits.mono ?_ fun _ _ _ => trivial
      rintro user _ - ⟨rfl, email, hfind⟩
      exact hone (Store.findUserByAddress_eq_some hs hfind).1
  | findUserBySagaId caller sagaId =>
      refine (Users.findBySagaId_finds hw caller sagaId).commits.mono ?_ fun _ _ _ => trivial
      rintro user _ - ⟨rfl, hfind⟩
      obtain ⟨id, hid⟩ :=
        (Table.mem_values_iff hs.users_unique).mp (List.mem_of_find?_eq_some hfind)
      exact hone (hfound hid)
  | listUsers caller fromId count =>
      refine (Users.list_finds hw caller fromId count).commits.mono ?_ fun _ _ _ => trivial
      rintro users _ - ⟨rfl, rfl⟩ user hmem
      obtain ⟨id, -, hid⟩ := List.mem_filterMap.mp hmem
      exact hfound hid
  | createUser payload address =>
      refine (Users.create_makes hw hs address).mono ?_ fun _ _ _ => trivial
      rintro user _ hadmissible ⟨⟨identity, role, rfl, -⟩, -⟩
      exact hone (Commit.newUser?_spec hs hadmissible rfl).2.1
  | updateUser caller id payload =>
      exact (Users.update_commits hw hs caller id payload).mono hchanges fun _ _ _ => trivial
  | deactivateUser caller id =>
      exact (Users.deactivate_commits hw hs caller id).mono hchanges fun _ _ _ => trivial
  | revokeTokens caller id =>
      exact (Users.revokeTokens_commits hw hs caller id).mono hchanges fun _ _ _ => trivial
  | changePassword caller payload =>
      refine (Credentials.changePassword_commits hw hs caller payload).mono ?_ fun _ _ _ => trivial
      rintro user _ - ⟨before, identity, -, -, rfl⟩
      exact hone (Commit.revision?_spec rfl)
  | applyPasswordReset life payload =>
      refine (Credentials.applyPasswordReset_commits hw hs life payload).mono ?_
        fun _ _ _ => trivial
      rintro user _ - ⟨⟨row, before, identity, -, -, rfl⟩, -⟩
      exact hone (Commit.revision?_spec rfl)
  | applyEmailVerification life payload =>
      refine (Credentials.applyEmailVerification_commits hw hs life payload).mono ?_
        fun _ _ _ => trivial
      rintro user _ - ⟨⟨row, before, identity, -, rfl⟩, -⟩
      exact hone (Commit.revision?_spec rfl)
  | _ => exact hnobody fun _ => rfl

end Call

namespace World

variable {w : World}

/-- A call makes a commit that records what it tells; a role is granted only where it answers. -/
theorem Settled.exec_records (h : w.Settled) (call : Call) :
    ∃ commit, call.Records w.now w.store commit
      ∧ (commit.granted? ≠ none → ∃ answer, (call.op.exec w).1 = .ok answer)
      ∧ commit.Admissible w.store ∧ (call.op.exec w).2.store = commit.apply w.store := by
  rcases (call.op_records h.at_store h.sound).cases with
    ⟨failure, w', hexec, commit, ⟨hrecords, hgrant⟩, hafter⟩ |
    ⟨answer, w', hexec, commit, hrecords, hafter⟩
  · rw [hexec]
    exact ⟨commit, hrecords, absurd hgrant, hafter.admissible, hafter.at_apply.store⟩
  · rw [hexec]
    exact ⟨commit, hrecords, fun _ => ⟨answer, rfl⟩, hafter.admissible, hafter.at_apply.store⟩

/-- A row after a call is the row from before, or what the call made of it, or a new user's. -/
theorem Settled.row_exec (h : w.Settled) (call : Call) {id : Int} {user : User}
    (huser : (call.op.exec w).2.store.users.get? id = some user) :
    w.store.users.get? id = some user
      ∨ (∃ before, w.store.users.get? id = some before ∧ user = call.revised w.now before)
      ∨ w.store.users.get? id = none
        ∧ ∃ sagaId, call.newcomer? w.now id sagaId = some user := by
  obtain ⟨commit, hrecords, -, hadmissible, hstore⟩ := h.exec_records call
  rw [hstore] at huser
  rcases Commit.row_apply hadmissible huser with hsame | ⟨before, hbefore, hrevision⟩ | hnew
  · exact Or.inl hsame
  · exact Or.inr (Or.inl ⟨before, hbefore, hrecords.revises before user hrevision⟩)
  · obtain ⟨hfree, hthere, -⟩ := Commit.newUser?_spec h.sound hadmissible hnew
    have hid : user.id = id :=
      ((Commit.sound_apply h.sound hadmissible).user_id huser).1
    have hnext : user.id = w.store.nextUserId := by
      cases commit with
      | enroll other identity role =>
          cases hnew
          exact hadmissible.1
      | _ => cases hnew
    obtain ⟨sagaId, hnewcomer⟩ := hrecords.enrolls user hnew
    rw [← hnext, hid] at hnewcomer
    exact Or.inr (Or.inr ⟨hid ▸ hfree, sagaId, hnewcomer⟩)

/-- Every user that a call answers with has this row after it. -/
theorem Settled.exec_answers (h : w.Settled) {call : Call} {answer : call.Answer}
    (hanswer : (call.op.exec w).1 = .ok answer) {user : User} (hmem : user ∈ call.users answer) :
    (call.op.exec w).2.store.users.get? user.id = some user := by
  rcases (call.op_answers h.at_store h.sound).cases with
    ⟨failure, w', hexec, -⟩ | ⟨other, w', hexec, commit, hstored, hafter⟩
  · rw [hexec] at hanswer
    cases hanswer
  · rw [hexec] at hanswer ⊢
    cases hanswer
    rw [hafter.at_apply.store]
    exact hstored user hmem

/-- A row that is another one after an update is the one that the update named, and the answer. -/
theorem Settled.row_updateUser (h : w.Settled) {caller : Caller} {target id : Int}
    {payload : UpdateProfile} {user : User} (hbefore : w.store.users.get? id ≠ some user)
    (hafter : ((Users.update caller target payload).exec w).2.store.users.get? id = some user) :
    ((Users.update caller target payload).exec w).1 = .ok user ∧ target = id := by
  rcases (Users.update_aims h.at_store h.sound caller target payload).cases with
    ⟨failure, w', hexec, commit, rfl, hstore⟩ |
    ⟨answer, w', hexec, commit, ⟨⟨before, -, rfl, rfl⟩, htarget⟩, hstore⟩
  all_goals
    rw [hexec] at hafter ⊢
    dsimp only at hafter ⊢
    rw [hstore.at_apply.store] at hafter
  · exact absurd hafter hbefore
  · rcases Commit.row_apply hstore.admissible hafter with hsame | ⟨old, -, hrevision⟩ | hnew
    · exact absurd hsame hbefore
    · cases hrevision
      have hid := ((Commit.sound_apply h.sound hstore.admissible).user_id hafter).1
      exact ⟨rfl, htarget.symm.trans hid⟩
    · cases hnew

end World

end Accounts
