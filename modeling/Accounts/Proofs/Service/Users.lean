import Accounts.Proofs.Payload
import Accounts.Proofs.Service.Basic
import Accounts.Service.Users

/-!
# What operations on users commit

Reads commit nothing. A change commits the changed row of one user, whom the caller may change;
signing up commits a new user with an identity that is not verified. Whatever fails commits
nothing.
-/

namespace Accounts

/-- Applying fields leaves alone who the user is; it may verify the address, not take that
back. -/
theorem Store.applyUpdate_continues {now : Timestamp} {p : UpdateUser} {u : User}
    (h : p.emailVerified = none ∨ p.emailVerified = some (some true)) :
    (applyUpdate now p u).Continues u := by
  refine ⟨rfl, rfl, fun hverified => ?_⟩
  rcases h with h | h <;> simp only [applyUpdate, h, Option.getD_none, Option.getD_some, hverified]

/-- A user whose session tokens are revoked. -/
def User.revokedAt (time : Int) (u : User) : User :=
  { u with revokeBefore := .utc time, updatedAt := .utc time }

theorem User.revokedAt_continues (time : Int) (u : User) : (u.revokedAt time).Continues u :=
  ⟨rfl, rfl, fun h => h⟩

namespace Users

open Op

variable {w : World} {time : Int} {s : Store}

/-! ## Reading -/

theorem ends_found {what : Missing} {user? : Option User} {ok : User → World → Prop}
    {failed : Failure → World → Prop} :
    (found what user?).Ends w ok failed ↔
      match user? with
      | some user => ok user w
      | none => failed (.service (.missing what)) w := by
  cases user? <;> rfl

/-- A user that was read is one that the caller may read. -/
theorem readable_ends (hw : w.At time s) (caller : Caller) (what : Missing)
    (look : Store → Option User) :
    (readable caller what look).Ends w
      (fun user w' => look s = some user ∧ s.Permits caller .users .read (targetOf user)
        ∧ w'.At time s)
      (fun _ w' => w'.At time s) := by
  unfold readable
  refine (ends_readInSlot hw look).next ?_ fun _ _ h => h
  rintro user? w₁ ⟨rfl, hw₁⟩
  rw [ends_bind, ends_found]
  cases hlook : look s with
  | none => exact hw₁
  | some user =>
      exact (ends_require hw₁ caller _ _ _).next (fun _ _ ⟨hw₂, hpermits⟩ => ⟨rfl, hpermits, hw₂⟩)
        fun _ _ h => h.2

theorem get_finds (hw : w.At time s) (caller : Caller) (id : Int) :
    (Users.get caller id).Finds w time s fun user => s.findUser id = some user :=
  (ends_require hw caller _ _ _).next
    (fun _ _ ⟨hw', _⟩ => (readable_ends hw' caller _ _).mono (fun _ _ h => ⟨h.1, h.2.2⟩)
      fun _ _ h => h)
    fun _ _ h => h.2

theorem get_keeps (hw : w.At time s) (caller : Caller) (id : Int) :
    (Users.get caller id).Keeps w time s := (get_finds hw caller id).keeps

theorem current_finds (hw : w.At time s) (caller : Caller) :
    (Users.current caller).Finds w time s fun user =>
      ∃ email, s.findUserByAddress email = some user := by
  unfold Users.current
  split
  · exact hw
  · split
    · exact hw
    · exact (readable_ends hw caller _ _).mono (fun _ _ h => ⟨⟨_, h.1⟩, h.2.2⟩) fun _ _ h => h

theorem current_keeps (hw : w.At time s) (caller : Caller) :
    (Users.current caller).Keeps w time s := (current_finds hw caller).keeps

theorem findBySagaId_finds (hw : w.At time s) (caller : Caller) (sagaId : JsonString) :
    (findBySagaId caller sagaId).Finds w time s fun user =>
      s.findUserBySagaId sagaId = some user :=
  (ends_require hw caller _ _ _).next
    (fun _ _ ⟨hw', _⟩ => (readable_ends hw' caller _ _).mono (fun _ _ h => ⟨h.1, h.2.2⟩)
      fun _ _ h => h)
    fun _ _ h => h.2

theorem findBySagaId_keeps (hw : w.At time s) (caller : Caller) (sagaId : JsonString) :
    (findBySagaId caller sagaId).Keeps w time s := (findBySagaId_finds hw caller sagaId).keeps

theorem list_finds (hw : w.At time s) (caller : Caller) (fromId count : Int) :
    (Users.list caller fromId count).Finds w time s fun users =>
      users = s.listUsers fromId count := by
  unfold Users.list
  refine ends_unless (fun _ => hw) fun _ => ?_
  refine (ends_require hw caller _ _ _).next ?_ fun _ _ h => h.2
  rintro _ w' ⟨hw', -⟩
  exact ends_readInSlot hw' _

theorem list_keeps (hw : w.At time s) (caller : Caller) (fromId count : Int) :
    (Users.list caller fromId count).Keeps w time s := (list_finds hw caller fromId count).keeps

/-! ## Changing -/

/-- A change of a user's row by a caller who may. -/
def Changes (s : Store) (caller : Caller) (action : Action) (f : User → User) (user : User)
    (commit : Commit) : Prop :=
  ∃ before, s.Permits caller .users action (targetOf before) ∧ user = f before
    ∧ commit = .revise before (f before)

/-- The row that is changed is the one that was asked for. -/
theorem change_aims (hw : w.At time s) (hs : s.Sound) (caller : Caller) (action : Action)
    (id : Int) {f : User → User} (hf : ∀ user, (f user).Continues user) :
    (change caller action id (·.modifyUser id f)).Commits w time s
      (fun user commit => Changes s caller action f user commit ∧ user.id = id)
      (· = .nothing) := by
  refine Writes.commits ?_ ?_ ?_
  · refine (ends_require hw caller _ _ _).next ?_ fun _ w' h => ⟨_, rfl, h.2.ahead⟩
    rintro _ w₁ ⟨hw₁, -⟩
    refine Writes.withSlot hw₁ (fun w₂ hw₂ => ?_) fun _ => rfl
    unfold Writes
    rw [ends_bind, ends_read, ends_bind, ends_found, hw₂.store]
    cases hfind : s.findUser id with
    | none => exact ⟨_, rfl, hw₂.ahead⟩
    | some before =>
        refine (ends_require hw₂ caller _ _ _).next ?_ fun _ w' h => ⟨_, rfl, h.2.ahead⟩
        rintro _ w₃ ⟨hw₃, hpermits⟩
        rw [ends_write, hw₃.store, Store.modifyUser, hfind]
        have hid : before.id = id := (hs.user_id hfind).1
        exact ⟨_, ⟨⟨before, hpermits, rfl, rfl⟩, (hf before).id.trans hid⟩, hw₃.now,
          by rw [Commit.apply, Store.putUser, (hf before).id, hid], hw₃.agrees,
          hid ▸ hfind, hf before⟩
  · rintro _ _ ⟨⟨before, -, -, rfl⟩, -⟩
    exact ⟨False.elim, rfl⟩
  · rintro _ rfl
    exact ⟨False.elim, rfl⟩

theorem change_commits (hw : w.At time s) (hs : s.Sound) (caller : Caller) (action : Action)
    (id : Int) {f : User → User} (hf : ∀ user, (f user).Continues user) :
    (change caller action id (·.modifyUser id f)).Commits w time s (Changes s caller action f)
      (· = .nothing) :=
  (change_aims hw hs caller action id hf).mono (fun _ _ _ h => h.1) fun _ _ h => h

theorem update_aims (hw : w.At time s) (hs : s.Sound) (caller : Caller) (id : Int)
    (payload : UpdateProfile) :
    (update caller id payload).Commits w time s
      (fun user commit => Changes s caller .update
        (Store.applyUpdate (.utc time) payload.toUpdateUser) user commit ∧ user.id = id)
      (· = .nothing) := by
  unfold update Commits
  rw [ends_bind, ends_now, hw.now]
  exact change_aims hw hs caller .update id fun _ => Store.applyUpdate_continues (Or.inl rfl)

theorem update_commits (hw : w.At time s) (hs : s.Sound) (caller : Caller) (id : Int)
    (payload : UpdateProfile) :
    (update caller id payload).Commits w time s
      (Changes s caller .update (Store.applyUpdate (.utc time) payload.toUpdateUser))
      (· = .nothing) :=
  (update_aims hw hs caller id payload).mono (fun _ _ _ h => h.1) fun _ _ h => h

theorem deactivate_commits (hw : w.At time s) (hs : s.Sound) (caller : Caller) (id : Int) :
    (deactivate caller id).Commits w time s
      (Changes s caller .delete (Store.applyUpdate (.utc time)
        { UpdateUser.nothing with isActive := some (some false) }))
      (· = .nothing) := by
  unfold deactivate Commits
  rw [ends_bind, ends_now, hw.now]
  exact change_commits hw hs caller .delete id fun _ => Store.applyUpdate_continues (Or.inl rfl)

theorem revokeTokens_commits (hw : w.At time s) (hs : s.Sound) (caller : Caller) (id : Int) :
    (revokeTokens caller id).Commits w time s
      (Changes s caller .update (User.revokedAt time)) (· = .nothing) := by
  unfold revokeTokens Commits
  rw [ends_bind, ends_now, hw.now]
  exact change_commits hw hs caller .update id (User.revokedAt_continues time)

/-! ## Signing up -/

/-- A new password is stored with a salt of its own. -/
theorem ends_hashNew (password : String) :
    (hashNew password).Ends w
      (fun stored w' => Password.Holds stored password ∧ w'.now = w.now ∧ w'.store = w.store
        ∧ w'.cache = w.cache)
      (fun _ _ => False) := by
  unfold hashNew freshRandom
  simp only [ends_bind, ends_get, ends_modify, ends_pure]
  obtain ⟨stored, hstored⟩ := Password.hash_saltOf password.toList
    (w.supply.random (w.supply.randoms + 1))
  rw [hstored, ends_ofResult]
  exact ⟨⟨_, hstored⟩, rfl, rfl, rfl⟩

/-- A user with an address and names that are texts is checked, and gets the canonical form of the
address by that. -/
theorem checkedUser_eq_pure {p : NewUser} {email : String}
    (h : Email.canonical p.email = .ok email) (hnamed : p.IsNamed) :
    checkedUser p = pure { p with email := email } := by
  unfold checkedUser
  rw [NewUser.checked_of_canonical h hnamed]

/-- A user with a name that is no text is refused. -/
theorem checkedUser_eq_crash {p : NewUser} (hnamed : ¬p.IsNamed) :
    checkedUser p = crash (.value p.refusal) := by
  obtain ⟨complaints, hbad⟩ := NewUser.checked_of_not_isNamed hnamed
  unfold checkedUser
  rw [hbad]

/-- The new user of somebody who signed up. -/
def SignsUp (payload : NewIdentity) (user : User) (commit : Commit) : Prop :=
  ∃ identity role, commit = .enroll user identity role ∧ identity.email = payload.email
    ∧ identity.provider = .unverifiedEmail ∧ identity.HasPassword payload.password

/-- The row of somebody who signed up. -/
def signedUp (payload : NewIdentity) (id time : Int) (sagaId : JsonString) : User :=
  Store.userRow id (.utc time) sagaId (.bare payload.email (some sagaId))

theorem enroll_makes (hw : w.At time s) (hs : s.Sound) {payload : NewIdentity}
    (haddress : Email.IsAddress payload.email) :
    (enroll payload).Writes w time s
      (fun user commit => SignsUp payload user commit
        ∧ ∃ sagaId, user = signedUp payload s.nextUserId time sagaId)
      (· = .nothing) := by
  unfold enroll
  refine (ends_sagaIdOr hw payload.sagaId).next ?_ fun _ _ h => h.elim
  intro sagaId w₁ hw₁
  refine Writes.withSlot hw₁ (fun w₂ hw₂ => ?_) fun _ => rfl
  unfold Writes
  rw [ends_bind, ends_read]
  refine ends_unless (fun _ => ⟨_, rfl, hw₂.ahead⟩) fun hexists => ?_
  have hfree : s.emailExists payload.email = false := by
    rw [← hw₂.store]
    exact Bool.eq_false_iff.mpr hexists
  have hchecked : checkedUser (.bare payload.email (some sagaId))
      = pure (.bare payload.email (some sagaId)) :=
    checkedUser_eq_pure haddress.canonical rfl
  rw [hchecked, pure_bind, ends_bind, ends_now, ends_bind, ends_write, hw₂.store, hw₂.now,
    Store.createUser_eq_ok hfree]
  refine (ends_hashNew payload.password).next ?_ fun _ _ h => h.elim
  rintro stored w₃ ⟨hholds, hnow, hstore, hcache⟩
  rw [ends_bind, ends_write, hstore, Store.createIdentity_eq_ok
    (Store.identity_none_of_emailExists hs hfree .unverifiedEmail :)]
  exact ⟨_, ⟨⟨_, _, rfl, rfl, rfl, stored, rfl, hholds⟩, sagaId, rfl⟩, hnow, rfl,
    hcache ▸ hw₂.agrees, rfl, hfree, haddress, rfl, rfl, by simp, ⟨stored, rfl, hholds.readable⟩,
    rfl, rfl, rfl⟩

theorem enroll_writes (hw : w.At time s) (hs : s.Sound) {payload : NewIdentity}
    (haddress : Email.IsAddress payload.email) :
    (enroll payload).Writes w time s (SignsUp payload) (· = .nothing) :=
  Ends.mono (enroll_makes hw hs haddress)
    (fun _ _ ⟨commit, h, hahead⟩ => ⟨commit, h.1, hahead⟩) fun _ _ h => h

theorem create_makes (hw : w.At time s) (hs : s.Sound) {payload : NewIdentity}
    (haddress : Email.IsAddress payload.email) :
    (create payload).Commits w time s
      (fun user commit => SignsUp payload user commit
        ∧ ∃ sagaId, user = signedUp payload s.nextUserId time sagaId)
      (· = .nothing) := by
  refine Writes.forget hs (enroll_makes hw hs haddress) ?_ fun _ h => h
  rintro user commit ⟨⟨identity, role, rfl, -⟩, -⟩
  rfl

theorem create_commits (hw : w.At time s) (hs : s.Sound) {payload : NewIdentity}
    (haddress : Email.IsAddress payload.email) :
    (create payload).Commits w time s (SignsUp payload) (· = .nothing) :=
  (create_makes hw hs haddress).mono (fun _ _ _ h => h.1) fun _ _ h => h

end Users

end Accounts
