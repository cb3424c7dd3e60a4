import Accounts.Proofs.Api.Sessions

/-!
# Passwords stay where they are

A user who has no password never gets one. Identities with a password are written in three ways:
with a new user, in place of one with a password, or moved from the unverified ones; and whatever
is written in place of another identity names the same user (`Commit.hasPassword_apply`). Signing up
is the only way to bring a new password, and it is refused where somebody has the address.

So whoever was made by signing in with another provider cannot be entered by a password, whatever
happens later.
-/

namespace Accounts

open Op SignIn

/-- A user has an identity that goes with a password, verified or not. -/
def Store.HasPassword (s : Store) (userId : Int) : Prop :=
  ∃ key identity, s.identities.get? key = some identity ∧ identity.userId = userId
    ∧ (identity.provider = .email ∨ identity.provider = .unverifiedEmail)

variable {s : Store}

/-- Whoever has a password is there. -/
theorem Store.HasPassword.user (hs : s.Sound) {id : Int} (h : s.HasPassword id) :
    ∃ user, s.users.get? id = some user := by
  obtain ⟨key, identity, hidentity, rfl, -⟩ := h
  obtain ⟨user, huser, -⟩ := hs.identity_user hidentity
  exact ⟨user, huser⟩

/-! ## Commits -/

namespace Commit

/-- An identity that was written says of a user what the store said before, unless it is the
identity of a user who has just been made. -/
theorem hasPassword_putIdentity {identity : Identity} {id : Int}
    (hput : identity.userId = id →
      identity.provider = .email ∨ identity.provider = .unverifiedEmail → s.HasPassword id)
    (h : (s.putIdentity identity).HasPassword id) : s.HasPassword id := by
  obtain ⟨key, found, hfound, hown, hprovider⟩ := h
  rcases Table.get?_put_cases hfound with ⟨-, rfl⟩ | ⟨-, hold⟩
  · exact hput hown hprovider
  · exact ⟨key, found, hold, hown, hprovider⟩

theorem Repasswords.hasPassword {before : User} {identity : Identity}
    (h : Repasswords s before identity) (hs : s.Sound) : s.HasPassword identity.userId := by
  obtain ⟨old, stored, hold, rfl, -⟩ := h.found
  exact ⟨_, old, hold, rfl, Or.inl (Prod.mk.inj (hs.identity_key hold)).2.symm⟩

/-- No commit gives a password to a user who is there and has none. -/
theorem hasPassword_apply (hs : s.Sound) {commit : Commit} (h : commit.Admissible s) {id : Int}
    {user : User} (huser : s.users.get? id = some user)
    (hafter : (commit.apply s).HasPassword id) : s.HasPassword id := by
  cases commit with
  | enroll other identity role =>
      obtain ⟨hid, -, -, -, hown, -⟩ := h
      refine hasPassword_putIdentity (fun howner _ => ?_) hafter
      have := (hs.user_id huser).2.2
      omega
  | link before after identity =>
      obtain ⟨-, -, -, -, hemail, hunverified, -⟩ := h
      exact hasPassword_putIdentity
        (fun _ hprovider => hprovider.elim (absurd · hemail) (absurd · hunverified)) hafter
  | repassword before after identity =>
      exact hasPassword_putIdentity (fun hown _ => hown ▸ h.2.hasPassword hs) hafter
  | reset row before after identity =>
      exact hasPassword_putIdentity (fun hown _ => hown ▸ h.2.2.2.2.hasPassword hs) hafter
  | verify row before after identity =>
      obtain ⟨-, -, -, -, -, -, hidentity, -⟩ := h
      have hprovider : Provider.unverifiedEmail = identity.provider :=
        (Prod.mk.inj (hs.identity_key hidentity)).2
      obtain ⟨key, found, hfound, hown, hpassword⟩ := hafter
      rcases Table.get?_put_cases hfound with ⟨-, rfl⟩ | ⟨-, hold⟩
      · exact ⟨_, identity, hidentity, hown, Or.inr hprovider.symm⟩
      · exact ⟨key, found, (Table.get?_of_get?_erase hold).2, hown, hpassword⟩
  | _ => exact hafter

/-- A quiet commit gives nobody a password, not even a user it makes. -/
theorem IsQuiet.hasPassword_apply {commit : Commit} (hquiet : commit.IsQuiet) {id : Int}
    (hafter : (commit.apply s).HasPassword id) : s.HasPassword id := by
  cases commit with
  | enroll other identity role =>
      exact hasPassword_putIdentity
        (fun _ hprovider => hprovider.elim (absurd · hquiet.1) (absurd · hquiet.2)) hafter
  | link before after identity =>
      exact hasPassword_putIdentity
        (fun _ hprovider => hprovider.elim (absurd · hquiet.1) (absurd · hquiet.2)) hafter
  | repassword before after identity => exact hquiet.elim
  | reset row before after identity => exact hquiet.elim
  | verify row before after identity => exact hquiet.elim
  | issue user row => exact hquiet.elim
  | consume row => exact hquiet.elim
  | _ => exact hafter

end Commit

/-! ## Signing up -/

/-- What somebody is told who signs up for an address that is taken. -/
def Users.refusal (slots : Slots) : Failure :=
  .service (if slots.isFree then .field "email" "Email already exists" else .store .noSlot)

theorem Users.enroll_ends_of_taken {w : World} {payload : NewIdentity}
    (htaken : w.store.emailExists payload.email = true) :
    (Users.enroll payload).Ends w (fun _ _ => False)
      (fun failure w' => failure = Users.refusal w.slots ∧ w'.store = w.store) := by
  have hsagaId : (sagaIdOr payload.sagaId).Ends w
      (fun _ w' => w'.store = w.store ∧ w'.slots = w.slots) (fun _ _ => False) := by
    cases payload.sagaId <;> exact ⟨rfl, rfl⟩
  unfold Users.enroll Users.refusal
  refine hsagaId.next ?_ fun _ _ h => h.elim
  rintro sagaId w₁ ⟨hstore, hslots⟩
  rw [ends_withSlot, hslots]
  split
  · rw [ends_bind, ends_read]
    dsimp only
    rw [hstore, htaken]
    exact ⟨rfl, rfl⟩
  · exact ⟨rfl, hstore⟩

/-- Signing up for the address of a user is refused, and nothing is stored. -/
theorem Users.create_exec_of_taken {w : World} (hs : w.store.Sound) {payload : NewIdentity}
    {id : Int} {user : User} (huser : w.store.users.get? id = some user)
    (hemail : user.email = payload.email) :
    ∃ w', (Users.create payload).exec w = (.error (Users.refusal w.slots), w')
      ∧ w'.store = w.store := by
  have htaken : w.store.emailExists payload.email = true := by
    rw [Store.emailExists_eq_isSome, Option.isSome_iff_exists, ← hemail]
    exact Store.findUserByEmail_isSome hs huser
  have hends : (Users.create payload).Ends w (fun _ _ => False)
      (fun failure w' => failure = Users.refusal w.slots ∧ w'.store = w.store) :=
    (Users.enroll_ends_of_taken htaken).next (fun _ _ h => h.elim) fun _ _ h => h
  rcases hends.cases with ⟨failure, w', hexec, rfl, hstore⟩ | ⟨_, _, _, hnever⟩
  · exact ⟨w', hexec, hstore⟩
  · exact hnever.elim

/-! ## Runs -/

namespace World

variable {w : World}

/-- An event gives no password to a user who is there and has none. -/
theorem Settled.hasPassword_step (h : w.Settled) {id : Int} {user : User}
    (huser : w.store.users.get? id = some user) (hnone : ¬w.store.HasPassword id) (event : Event) :
    ¬(w.step event).store.HasPassword id := by
  rw [step_store]
  cases w.callOf? event with
  | none => exact hnone
  | some call =>
      obtain ⟨commit, -, hadmissible, hstore⟩ := h.exec_store call
      dsimp only
      rw [hstore]
      exact fun hafter => hnone (Commit.hasPassword_apply h.sound hadmissible huser hafter)

theorem Settled.hasPassword_run (h : w.Settled) {id : Int} {user : User}
    (huser : w.store.users.get? id = some user) (hnone : ¬w.store.HasPassword id)
    (events : List Event) : ¬(w.run events).store.HasPassword id := by
  induction events generalizing w user with
  | nil => exact hnone
  | cons event rest ih =>
      obtain ⟨later, hlater, -⟩ := h.user_step huser event
      exact ih (h.step event) hlater (h.hasPassword_step huser hnone event)

end World

/-- A call that signs somebody in with another provider. -/
def Call.IsProviderLogin : Call → Prop
  | .createOrLink .. | .signInWithProvider .. => True
  | _ => False

/-- Whoever was made by signing in with another provider has no password. -/
theorem Call.IsProviderLogin.hasPassword {w : World} (h : w.Settled) {call : Call}
    (hcall : call.IsProviderLogin) {id : Int} (hnew : w.store.users.get? id = none) :
    ¬(call.op.exec w).2.store.HasPassword id := by
  obtain ⟨commit, hhas, -, hstore⟩ := h.exec_store call
  have hquiet : commit.IsQuiet := by
    unfold Served.Has at hhas
    cases call with
    | createOrLink profile address => split at hhas <;> exact hhas
    | signInWithProvider codec providers provider payload => split at hhas <;> exact hhas
    | _ => exact hcall.elim
  rw [hstore]
  intro hafter
  obtain ⟨user, huser⟩ := (hquiet.hasPassword_apply hafter).user h.sound
  rw [hnew] at huser
  cases huser

/-- Whoever gets in by a password has one. -/
theorem World.HandsOut.hasPassword {w : World} (h : w.Settled) {event : Event} {login : Login}
    (hhands : w.HandsOut event login) (hprovider : login.provider = .email) :
    ∃ user, (w.step event).store.findUserByEmail login.email = some user
      ∧ (w.step event).store.HasPassword user.id := by
  have hsound := (h.step event).sound
  obtain ⟨-, identity, hidentity⟩ := hhands.identity h
  rw [hprovider] at hidentity
  obtain ⟨user, huser, hemail, -⟩ := hsound.identity_verified hidentity
  have hid : user.id = identity.userId := (hsound.user_id huser).1
  have hkey : Provider.email = identity.provider := (Prod.mk.inj (hsound.identity_key hidentity)).2
  exact ⟨user, (Store.findUserByEmail_iff hsound).mpr ⟨hid ▸ huser, hemail⟩, _, identity, hidentity,
    hid.symm, Or.inl hkey.symm⟩

/-- **No password is ever attached to an existing account.** Whatever happens, a user who is there
and has no password, verified or not, has none afterwards. Signing up for the address of a user is
refused with a complaint about the address, or for want of a slot, and leaves the store as it is. So
whoever was made by signing in with another provider has no password in any state that a run goes
through from then on, and whenever somebody is let in there by a password, it is somebody else. -/
theorem no_password_attached {w : World} (hw : w.Reachable) (event : Event) :
    (∀ id user, w.store.users.get? id = some user → ¬w.store.HasPassword id →
        ¬(w.step event).store.HasPassword id)
      ∧ (∀ payload address id user, w.callOf? event = some (.createUser payload address) →
        w.store.users.get? id = some user → user.email = payload.email →
        ((Users.create payload).exec w).1 = .error (Users.refusal w.slots)
          ∧ (w.step event).store = w.store)
      ∧ ∀ call id user, w.callOf? event = some call → call.IsProviderLogin →
        w.store.users.get? id = none → (w.step event).store.users.get? id = some user →
        ∀ later : List Event,
          let w' := (w.step event).run later
          ¬w'.store.HasPassword id
            ∧ ∀ event' login, w'.HandsOut event' login → login.provider = .email →
              ∃ other, (w'.step event').store.findUserByEmail login.email = some other
                ∧ other.id ≠ id := by
  have hsettled := hw.settled
  refine ⟨fun id user huser hnone => hsettled.hasPassword_step huser hnone event, ?_, ?_⟩
  · intro payload address id user hcall huser hemail
    obtain ⟨w', hexec, hstore⟩ := Users.create_exec_of_taken hsettled.sound huser hemail
    rw [World.step_store, hcall]
    exact ⟨by rw [hexec], (congrArg (·.2.store) hexec).trans hstore⟩
  · intro call id user hcall hprovider hnew huser later
    have hstep := hsettled.step event
    have hnone : ¬(w.step event).store.HasPassword id := by
      rw [World.step_store, hcall]
      exact hprovider.hasPassword hsettled hnew
    refine ⟨hstep.hasPassword_run huser hnone later, fun event' login hhands hpassword => ?_⟩
    obtain ⟨other, hother, hhas⟩ := hhands.hasPassword (hstep.run later) hpassword
    refine ⟨other, hother, ?_⟩
    rintro rfl
    have hlast := hstep.hasPassword_run huser hnone (later ++ [event'])
    rw [World.run_concat] at hlast
    exact hlast hhas

/-- Somebody is made by signing in with another provider, and then somebody signs up for the same
address. -/
theorem no_password_attached_of_link :
    let profile := Profile.google (.text "7") "ann@example.com" none none none none true
    let start : World := ⟨0, .empty, .empty 600 0, ⟨1, 0, true⟩, .start [], []⟩
    let link : Event := .call (.createOrLink profile Email.isAddress_plain)
    let payload : NewIdentity := ⟨"ann@example.com", "password1", none⟩
    let signUp : Event := .call (.createUser payload Email.isAddress_plain)
    ((Users.create payload).exec (start.step link)).1
        = .error (.service (.field "email" "Email already exists"))
      ∧ ((start.step link).step signUp).store = (start.step link).store
      ∧ ¬((start.step link).run [signUp]).store.HasPassword 1 := by
  intro profile start link payload signUp
  have hw : start.Reachable := .initial ⟨rfl, rfl⟩
  obtain ⟨user, huser⟩ : ∃ user, (start.step link).store.users.get? 1 = some user :=
    Option.isSome_iff_exists.mp (by decide +kernel)
  have hemail : user.email = payload.email := by
    have hmap : ((start.step link).store.users.get? 1).map (·.email) = some "ann@example.com" := by
      decide +kernel
    rw [huser] at hmap
    exact Option.some.inj hmap
  obtain ⟨hrefused, hstore⟩ :=
    (no_password_attached (hw.step link) signUp).2.1 payload _ 1 user rfl huser hemail
  refine ⟨hrefused.trans ?_, hstore,
    ((no_password_attached hw link).2.2 _ 1 user rfl trivial rfl huser [signUp]).1⟩
  rw [Users.refusal, if_pos (by decide +kernel)]

/-- Without a slot, signing up for the address of a user is refused for want of it: there is no
complaint about any field. -/
theorem signup_uncomplained_without_slot :
    let profile := Profile.google (.text "7") "ann@example.com" none none none none true
    let start : World := ⟨0, .empty, .empty 600 0, ⟨1, 0, true⟩, .start [], []⟩
    let w := start.run [.call (.createOrLink profile Email.isAddress_plain),
      .meanwhile 1000000 ⟨1, 1, true⟩ (.start []) []]
    let result := ((Users.create ⟨"ann@example.com", "password1", none⟩).exec w).1
    w.Reachable ∧ (w.store.users.get? 1).map (·.email) = some "ann@example.com"
      ∧ result = .error (.service (.store .noSlot))
      ∧ ∀ fields, result ≠ .error (.service (.invalid fields)) := by
  intro profile start w result
  have hresult : result = .error (.service (.store .noSlot)) := rfl
  refine ⟨⟨start, _, ⟨rfl, rfl⟩, rfl⟩, by decide +kernel, hresult, fun fields => ?_⟩
  rw [hresult]
  simp

end Accounts
