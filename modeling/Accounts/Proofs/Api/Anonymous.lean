import Accounts.Proofs.Api.Calls

/-!
# What nobody learns

Whoever calls without a token has no rights, and behind the endpoints that ask who is calling there
is nothing to learn without any: the refusal is the same in every world, and the world stays as it
is. For that a service has to refuse before it looks anything up, and one does not: revoking a
single grant looks the grant up first, to know whose it is, and tells a grant that is not there from
one that may not be touched (`anonymous_refused`).
-/

namespace Accounts

open Op Http

/-! ## Operations that fail whatever is stored -/

namespace Op

variable {α β : Type} {op : Op α} {failure : Failure}

/-- Wherever a slot is to be had, the operation fails in one and the same way, and nothing
changes. -/
def FailsBy (op : Op α) (failure : Failure) : Prop :=
  ∀ w : World, w.slots.isFree = true → op.exec w = (.error failure, w)

theorem failsBy_throw (failure : Failure) : (throw failure : Op α).FailsBy failure :=
  fun _ _ => rfl

/-- What would come behind a failure does not matter. -/
theorem FailsBy.bind (h : op.FailsBy failure) (next : α → Op β) :
    (op >>= next).FailsBy failure := by
  intro w hfree
  rw [exec_bind, h w hfree]

/-- A value from outside the store comes first. -/
theorem failsBy_ofResult_bind {result : Except Failure α} {next : α → Op β}
    (hnext : ∀ value, ∃ failure, (next value).FailsBy failure) :
    ∃ failure, (ofResult result >>= next).FailsBy failure := by
  cases result with
  | error failure => exact ⟨failure, (failsBy_throw failure).bind next⟩
  | ok value => exact hnext value

/-- The time is read first. -/
theorem failsBy_now_bind {next : Timestamp → Op β} (hnext : ∀ time, (next time).FailsBy failure) :
    (now >>= next).FailsBy failure :=
  fun w hfree => hnext (.utc w.now) w hfree

/-- A failure without a look at the store stays one inside a slot, which is given back. -/
theorem failsBy_withSlot_fail (error : ServiceError) :
    (withSlot (fail error : Op α)).FailsBy (.service error) := by
  intro w hfree
  change withSlot (fail error) w = _
  rw [withSlot, if_pos hfree]
  rfl

/-- Nobody has any right. -/
theorem require_anonymous (resource : Resource) (action : Action) (targets : List Target) :
    require .anonymous resource action targets = fail (.denied action resource) := rfl

theorem failsBy_require (resource : Resource) (action : Action) (targets : List Target)
    (next : Unit → Op β) :
    (require .anonymous resource action targets >>= next).FailsBy
      (.service (.denied action resource)) := by
  rw [require_anonymous]
  exact (failsBy_throw _).bind next

end Op

/-! ## The services -/

namespace Users

theorem list_failsBy (fromId count : Int) :
    ∃ failure, (list .anonymous fromId count).FailsBy failure := by
  unfold list
  dsimp only
  split
  · exact ⟨_, (failsBy_throw _).bind _⟩
  · exact ⟨_, failsBy_require _ _ _ _⟩

theorem change_failsBy (action : Action) (id : Int)
    (f : Store → Except ServiceError (User × Store)) :
    (change .anonymous action id f).FailsBy (.service (.denied action .users)) :=
  failsBy_require _ _ _ _

end Users

namespace Credentials

theorem request_failsBy (payload : ResetRequest) (provider : Provider) (tokenType : TokenType)
    (refusal : String) :
    (request .anonymous payload provider tokenType refusal).FailsBy
      (.service (.denied .update .users)) :=
  failsBy_withSlot_fail _

theorem lifetime_bind_failsBy {β : Type} (micros : Int) {next : Lifetime → Op β}
    (hnext : ∀ life, ∃ failure, (next life).FailsBy failure) :
    ∃ failure, (lifetime micros >>= next).FailsBy failure := by
  unfold lifetime
  split
  · exact hnext micros
  · exact ⟨_, (failsBy_throw _).bind next⟩

end Credentials

namespace Roles

/-- What nobody is told who asks for a grant to be revoked. -/
def revocationError (s : Store) (id : Int) : ServiceError :=
  if (s.findRole id).isSome then .denied .delete .userRoles else .missing (.grant id)

/-- The grant is looked up before the caller is refused, and whether it is there is told. -/
theorem revoke_anonymous {w : World} (hfree : w.slots.isFree = true) (id : Int) :
    (revoke .anonymous id).Ends w (fun _ _ => False)
      (fun failure w' => failure = .service (revocationError w.store id) ∧ w' = w) := by
  unfold revoke revocationError
  rw [ends_withSlot, if_pos hfree, ends_bind, ends_read]
  cases w.store.findRole id with
  | none => exact ⟨rfl, rfl⟩
  | some role => exact ⟨rfl, rfl⟩

theorem delete_anonymous {w : World} (hfree : w.slots.isFree = true) (id : Int) :
    (delete .anonymous id).exec w = (.error (.service (revocationError w.store id)), w) := by
  rcases (revoke_anonymous hfree id).cases with ⟨_, _, hexec, rfl, rfl⟩ | ⟨_, _, -, hno⟩
  · unfold delete
    rw [exec_bind, hexec]
  · exact hno.elim

end Roles

/-! ## The endpoints -/

namespace Api

variable {setup : Setup} {request : Request}

theorem payload_bind_failsBy {α β : Type} {check : Payload.Members → Payload.Checked α}
    {next : α → Op β} (hnext : ∀ value, ∃ failure, (next value).FailsBy failure) :
    ∃ failure, (payload setup request check >>= next).FailsBy failure :=
  failsBy_ofResult_bind hnext

theorem queryNumber_bind_failsBy {β : Type} {name : String} {next : Int → Op β}
    (hnext : ∀ n, ∃ failure, (next n).FailsBy failure) :
    ∃ failure, (queryNumber request name >>= next).FailsBy failure := by
  unfold queryNumber
  cases queryInt request.query name with
  | error problem => exact ⟨_, (failsBy_throw _).bind next⟩
  | ok n => exact hnext n

/-- An endpoint that asks who is calling fails in the same way for nobody whatever is stored; the
one that revokes a single grant is left out. -/
theorem Endpoint.run_failsBy (route : Route) {endpoint : Endpoint}
    (hpublic : endpoint.isPublic = false) (hne : endpoint ≠ .deleteRole) :
    ∃ failure, (endpoint.run setup request route .anonymous).FailsBy failure := by
  have hchange : ∀ action id (f : Timestamp → Store → Except ServiceError (User × Store)),
      ∃ failure, (do
        let user ← (do let now ← now; Users.change .anonymous action id (f now))
        return user.toJson : Op Json).FailsBy failure :=
    fun action id f => ⟨_, (failsBy_now_bind fun time =>
      Users.change_failsBy action id (f time)).bind _⟩
  cases endpoint with
  | listUsers =>
      refine queryNumber_bind_failsBy fun fromId => queryNumber_bind_failsBy fun count => ?_
      obtain ⟨failure, hlist⟩ := Users.list_failsBy fromId count
      exact ⟨failure, hlist.bind _⟩
  | currentUser => exact ⟨_, (failsBy_throw _).bind _⟩
  | getUser => exact ⟨_, (failsBy_require _ _ _ _).bind _⟩
  | updateUser => exact payload_bind_failsBy fun changes => hchange _ _ _
  | deactivateUser => exact hchange _ _ _
  | getUserBySagaId => exact ⟨_, (failsBy_require _ _ _ _).bind _⟩
  | revokeTokens => exact hchange _ _ _
  | changePassword =>
      exact payload_bind_failsBy fun change => Credentials.lifetime_bind_failsBy _ fun _ =>
        ⟨_, (failsBy_throw _).bind _⟩
  | requestPasswordReset =>
      exact payload_bind_failsBy fun wanted => Credentials.lifetime_bind_failsBy _ fun _ =>
        ⟨_, (Credentials.request_failsBy wanted _ _ _).bind _⟩
  | requestEmailVerification =>
      exact payload_bind_failsBy fun wanted => Credentials.lifetime_bind_failsBy _ fun _ =>
        ⟨_, (Credentials.request_failsBy wanted _ _ _).bind _⟩
  | getOwnRoles => exact ⟨_, failsBy_throw _⟩
  | createRole =>
      exact payload_bind_failsBy fun wanted => ⟨_, (failsBy_require _ _ _ _).bind _⟩
  | getRoles => exact ⟨_, (failsBy_require _ _ _ _).bind _⟩
  | deleteRole => exact absurd rfl hne
  | createDefaultRole => exact ⟨_, (failsBy_require _ _ _ _).bind _⟩
  | deleteRoles => exact ⟨_, (failsBy_require _ _ _ _).bind _⟩
  | _ => cases hpublic

/-- A request without a token is answered as its endpoint fails for nobody. -/
theorem exchange_of_anonymous {route : Route} {endpoint : Endpoint} {failure : Failure}
    {w : World} (hendpoint : endpoint? setup request = some (route, endpoint))
    (hbearer : request.bearer? = none)
    (hfails : (endpoint.run setup request route .anonymous).exec w = (.error failure, w)) :
    Session.exchange setup request w =
      (render (Cors.allowedOrigin? setup.origins request) (.error failure), w) := by
  refine exchange_of_failed hendpoint ?_
  rw [exec_bind, endpoint.caller_exec hbearer]
  exact hfails

end Api

open Api

/-- **Nobody is told anything, but of grants.** A request without a token to an endpoint that asks
who is calling fails, with one and the same answer in all worlds that have a slot to be had, and it
changes nothing. The one that revokes a single grant changes nothing either, but whether there is
such a grant can be told from its answer. -/
theorem anonymous_refused (setup : Setup) (request : Request) (route : Route) (endpoint : Endpoint)
    (hendpoint : endpoint? setup request = some (route, endpoint))
    (hpublic : endpoint.isPublic = false) (hbearer : request.bearer? = none) :
    let answer := render (Cors.allowedOrigin? setup.origins request)
    (endpoint ≠ .deleteRole → ∃ failure, ∀ w : World, w.slots.isFree = true →
        Session.exchange setup request w = (answer (.error failure), w))
      ∧ (endpoint = .deleteRole → ∀ w : World, w.slots.isFree = true →
        Session.exchange setup request w =
          (answer (.error (.service (Roles.revocationError w.store (Route.idOf route)))), w)) := by
  intro answer
  constructor
  · intro hne
    obtain ⟨failure, hfails⟩ : ∃ failure,
        (endpoint.run setup request route .anonymous).FailsBy failure :=
      endpoint.run_failsBy route hpublic hne
    exact ⟨failure, fun w hfree => exchange_of_anonymous hendpoint hbearer (hfails w hfree)⟩
  · rintro rfl w hfree
    refine exchange_of_anonymous hendpoint hbearer ?_
    unfold Endpoint.run
    rw [exec_bind, Roles.delete_anonymous hfree]

/-- Whether somebody signed up cannot be told by asking for the first user, but it can be told by
asking for the first grant to be revoked. -/
theorem anonymous_refused_of_revocation :
    let setup : Setup :=
      ⟨⟨"secret", "HS256"⟩, ⟨"https://google", "https://facebook", .usual, fun _ => .timedOut⟩,
        .usual, .usual, 3600, []⟩
    let lookup : Request := ⟨"GET", "/users/1".toList, [], [], []⟩
    let revocation : Request := ⟨"DELETE", "/user_roles/1".toList, [], [], []⟩
    let start : World := ⟨0, .empty, .empty 600 0, ⟨1, 0, true⟩, .start [], []⟩
    let signedUp := start.step
      (.call (.createUser ⟨"ann@example.com", "password1", none⟩ Email.isAddress_plain))
    (Session.exchange setup lookup start).1 = (Session.exchange setup lookup signedUp).1
      ∧ (Session.exchange setup revocation start).1.status = 404
      ∧ (Session.exchange setup revocation signedUp).1.status = 403 := by
  intro setup lookup revocation start signedUp
  have hstart : start.slots.isFree = true := by decide +kernel
  have hsignedUp : signedUp.slots.isFree = true := by decide +kernel
  obtain ⟨failure, hlookup⟩ := (anonymous_refused setup lookup _ .getUser
    rfl rfl rfl).1 (by decide)
  have hrevocation := (anonymous_refused setup revocation _ .deleteRole rfl rfl rfl).2 rfl
  refine ⟨?_, ?_, ?_⟩
  · rw [hlookup start hstart, hlookup signedUp hsignedUp]
  · rw [hrevocation start hstart]
    decide +kernel
  · rw [hrevocation signedUp hsignedUp]
    decide +kernel

end Accounts
