import Accounts.Proofs.Service.Roles
import Accounts.Proofs.Service.SignIn
import Accounts.Session

/-!
# What requests commit

A request resolves to an endpoint and a caller, and commits what the endpoint may commit for that
caller: behind the endpoints that ask who is calling only what the store permits the caller, behind
the public ones what the payload, the profile or the presented token stands for. A request that is
not answered by an endpoint, or whose caller is refused, commits nothing.
-/

namespace Accounts

open Op

/-- What a commit takes of the caller's rights. Commits that no right leads to are never
licensed. -/
def Commit.Licensed (s : Store) (caller : Caller) : Commit → Prop
  | nothing => True
  | revise before _ => ∃ action, action ≠ .read
      ∧ s.Permits caller .users action (Users.targetOf before)
  | repassword before _ _ => s.Permits caller .users .update (Users.targetOf before)
  | issue user row => s.Permits caller .users .update (Users.targetOf user)
      ∧ row.email = user.email
  | grant role => s.Permits caller .userRoles .create [.ownedBy role.userId]
  | revoke role => s.Permits caller .userRoles .delete [.userRole role.userId]
  | revokeAll userId => s.Permits caller .userRoles .delete [.ownedBy userId]
  | enroll _ _ _ | link _ _ _ | consume _ | reset _ _ _ _ | verify _ _ _ _ => False

/-- A caller of a request: nobody, or a user whom the store has. -/
def Caller.IsKnown (s : Store) (caller : Caller) : Prop :=
  caller.userId = none ∧ caller.authority = .nobody
    ∨ ∃ user, s.users.get? user.id = some user
      ∧ caller = ⟨some user.id, some (.text user.email), .user user.id⟩

namespace Api

section Body

variable {α : Type} {depth : Json.Depth} {check : Payload.Members → Payload.Checked α}
  {body : List UInt8}

/-- A payload was read from an object, and checked. -/
theorem parse_of_payloadOf {payload : α} (h : payloadOf depth check body = .ok payload) :
    ∃ members, Json.parseOctets depth body = .ok (.obj members) ∧ check members = .ok payload := by
  unfold payloadOf at h
  dsimp only at h
  split at h
  · cases h
  · split at h
    · cases h
    · cases h
    · split at h
      · rename_i hparse _ _ hcheck
        cases h
        exact ⟨_, hparse, hcheck⟩
      · cases h
    · cases h

/-- What is read of a body that holds an object. -/
theorem payloadOf_of_parse {members : Payload.Members}
    (h : Json.parseOctets depth body = .ok (.obj members)) :
    payloadOf depth check body = match check members with
      | .ok payload => .ok payload
      | .bad complaints => .error (.service (.invalid (Payload.grouped complaints))) := by
  have hempty : body.isEmpty = false := by
    cases body with
    | nil => cases h
    | cons => rfl
  unfold payloadOf
  rw [hempty, h]
  rfl

theorem payloadOf_of_malformed (hempty : body ≠ [])
    (h : Json.parseOctets depth body = .error .malformed) :
    payloadOf depth check body = .error (.service (.field "body" BodyProblem.malformed.text)) := by
  unfold payloadOf
  rw [List.isEmpty_eq_false_iff.mpr hempty, h]
  rfl

theorem checked_of_payloadOf {payload : α} (h : payloadOf depth check body = .ok payload) :
    ∃ members, check members = .ok payload :=
  (parse_of_payloadOf h).imp fun _ => And.right

theorem isAddress_of_payloadOf {payload : NewIdentity}
    (h : payloadOf depth NewIdentity.ofMembers body = .ok payload) :
    Email.IsAddress payload.email := by
  obtain ⟨members, hmembers⟩ := checked_of_payloadOf h
  exact NewIdentity.isAddress_of_ofMembers hmembers

end Body

/-- What an endpoint may commit for a caller. -/
def Endpoint.Does (setup : Setup) (request : Http.Request) (s : Store) (caller : Caller)
    (commit : Commit) : Endpoint → Prop
  | createUser => commit = .nothing ∨ ∃ payload user,
      payloadOf setup.bodyDepth NewIdentity.ofMembers request.body = .ok payload
        ∧ Users.SignsUp payload user commit
  | jwtEmail => commit = .nothing ∨ ∃ payload,
      payloadOf setup.bodyDepth EmailIdentity.ofMembers request.body = .ok payload
        ∧ SignIn.LogsIn payload.email commit
  | jwtGoogle => commit = .nothing ∨ ∃ payload,
      payloadOf setup.bodyDepth ProviderOauth.ofMembers request.body = .ok payload
        ∧ SignIn.SignsInBy setup.providers .google payload.token commit
  | jwtFacebook => commit = .nothing ∨ ∃ payload,
      payloadOf setup.bodyDepth ProviderOauth.ofMembers request.body = .ok payload
        ∧ SignIn.SignsInBy setup.providers .facebook payload.token commit
  | applyPasswordReset => commit = .nothing ∨ ∃ payload,
      payloadOf setup.bodyDepth ResetApply.ofMembers request.body = .ok payload
        ∧ ((∃ user, Credentials.Resets s payload user commit)
          ∨ Credentials.Spends s payload.token .passwordReset commit)
  | applyEmailVerification => commit = .nothing ∨ ∃ payload,
      payloadOf setup.bodyDepth EmailVerifyApply.ofMembers request.body = .ok payload
        ∧ ((∃ user, Credentials.Verifies s payload.token user commit)
          ∨ Credentials.Spends s payload.token .emailVerify commit)
  | healthcheck => commit = .nothing
  | _ => commit.Licensed s caller

end Api

/-! ## Operations of endpoints -/

namespace Op

variable {α β : Type} {w : World} {time : Int} {s : Store} {done : Commit → Prop}

/-- However `op` ends, it has made one of these commits. -/
def Does (op : Op α) (w : World) (time : Int) (s : Store) (done : Commit → Prop) : Prop :=
  op.Commits w time s (fun _ => done) done

/-- A commit that is known by its answer, with the answer in another form. -/
theorem Commits.does {op : Op α} {ok : α → Commit → Prop} {failed : Commit → Prop} {f : α → β}
    (h : op.Commits w time s ok failed)
    (hok : ∀ value commit, commit.Admissible s → ok value commit → done commit)
    (hfailed : ∀ commit, commit.Admissible s → failed commit → done commit) :
    (op >>= fun value => pure (f value)).Does w time s done :=
  Ends.next h
    (fun value _ ⟨commit, hcommit, hafter⟩ =>
      ⟨commit, hok value commit hafter.admissible hcommit, hafter⟩)
    (fun _ _ ⟨commit, hcommit, hafter⟩ =>
      ⟨commit, hfailed commit hafter.admissible hcommit, hafter⟩)

theorem Keeps.does {op : Op α} {f : α → β} (h : op.Keeps w time s) (hnothing : done .nothing) :
    (op >>= fun value => pure (f value)).Does w time s done :=
  h.commits.does (fun _ _ _ heq => heq ▸ hnothing) fun _ _ heq => heq ▸ hnothing

theorem Keeps.next {op : Op α} {next : α → Op β} (h : op.Keeps w time s)
    (hnext : ∀ value w', w'.At time s → (next value).Does w' time s done)
    (hnothing : done .nothing) : (op >>= next).Does w time s done :=
  Ends.next h hnext fun _ _ hw => ⟨_, hnothing, hw.after⟩

theorem does_payload {setup : Api.Setup} {request : Http.Request}
    {check : Payload.Members → Payload.Checked α} {next : α → Op β} (hw : w.At time s)
    (hnext : ∀ payload, Api.payloadOf setup.bodyDepth check request.body = .ok payload →
      (next payload).Does w time s done)
    (hnothing : done .nothing) : (Api.payload setup request check >>= next).Does w time s done := by
  unfold Api.payload Does Commits
  rw [ends_bind, ends_ofResult]
  cases h : Api.payloadOf setup.bodyDepth check request.body with
  | error failure => exact ⟨_, hnothing, hw.after⟩
  | ok payload => exact hnext payload h

theorem queryNumber_keeps (hw : w.At time s) (request : Http.Request) (name : String) :
    (Api.queryNumber request name).Keeps w time s := by
  unfold Api.queryNumber
  split <;> exact hw

end Op

namespace Api

open Credentials in
/-- An endpoint does what it may. -/
theorem Endpoint.run_does {w : World} {time : Int} {s : Store} (hw : w.At time s) (hs : s.Sound)
    (setup : Setup) (request : Http.Request) (route : Route) (caller : Caller)
    (endpoint : Endpoint) :
    (endpoint.run setup request route caller).Does w time s
      (endpoint.Does setup request s caller) := by
  -- A change of a user's row is licensed by the right that it took.
  have hchange : ∀ {action f} (value : User) (commit : Commit), action ≠ .read →
      Users.Changes s caller action f value commit → commit.Licensed s caller := by
    rintro action f value _ hne ⟨before, hpermits, -, rfl⟩
    exact ⟨action, hne, hpermits⟩
  have hissue : ∀ {payload tokenType} (row : ResetToken) (commit : Commit),
      commit.Admissible s → Issues s caller payload tokenType row commit →
      commit.Licensed s caller := by
    rintro payload tokenType row _ hadmissible ⟨user, hpermits, -, -, rfl⟩
    exact ⟨hpermits, hadmissible.2.1⟩
  have hgrant : ∀ {payload} (role : UserRole) (commit : Commit),
      Roles.Grants s caller payload role commit → commit.Licensed s caller := by
    rintro payload role _ ⟨hpermits, howner, -, rfl⟩
    rw [Commit.Licensed, howner]
    exact hpermits
  have hnothing : ∀ commit : Commit, commit = .nothing → commit.Licensed s caller := by
    rintro _ rfl
    trivial
  cases endpoint with
  | healthcheck => exact ⟨_, rfl, hw.after⟩
  | listUsers =>
      exact (queryNumber_keeps hw request _).next (fun fromId w₁ hw₁ =>
        (queryNumber_keeps hw₁ request _).next (fun count w₂ hw₂ =>
          (Users.list_keeps hw₂ caller fromId count).does trivial) trivial) trivial
  | createUser =>
      exact does_payload hw (fun payload hpayload =>
        (Users.create_commits hw hs (isAddress_of_payloadOf hpayload)).does
          (fun user _ _ h => Or.inr ⟨payload, user, hpayload, h⟩) fun _ _ h => Or.inl h)
        (Or.inl rfl)
  | currentUser => exact (Users.current_keeps hw caller).does trivial
  | getUser => exact (Users.get_keeps hw caller _).does trivial
  | updateUser =>
      exact does_payload hw (fun payload _ => (Users.update_commits hw hs caller _ payload).does
        (fun value commit _ h => hchange value commit (by simp) h) fun c _ h => hnothing c h)
        trivial
  | deactivateUser =>
      exact (Users.deactivate_commits hw hs caller _).does
        (fun value commit _ h => hchange value commit (by simp) h) fun c _ h => hnothing c h
  | getUserBySagaId => exact (Users.findBySagaId_keeps hw caller _).does trivial
  | revokeTokens =>
      exact (Users.revokeTokens_commits hw hs caller _).does
        (fun value commit _ h => hchange value commit (by simp) h) fun c _ h => hnothing c h
  | changePassword =>
      refine does_payload hw (fun payload _ => (lifetime_keeps hw _).next (fun _ w₁ hw₁ =>
        (changePassword_commits hw₁ hs caller payload).does ?_ fun c _ h => hnothing c h) trivial)
        trivial
      rintro user _ - ⟨before, identity, hpermits, -, rfl⟩
      exact hpermits
  | requestPasswordReset =>
      exact does_payload hw (fun payload _ => (lifetime_keeps hw _).next (fun _ w₁ hw₁ =>
        (requestPasswordReset_commits hw₁ hs caller payload).does hissue
          fun c _ h => hnothing c h) trivial) trivial
  | applyPasswordReset =>
      exact does_payload hw (fun payload hpayload => (lifetime_keeps hw _).next
        (fun life w₁ hw₁ => (applyPasswordReset_commits hw₁ hs life payload).does
          (fun user _ _ h => Or.inr ⟨payload, hpayload, Or.inl ⟨user, h.1⟩⟩)
          fun _ _ h => Or.inr ⟨payload, hpayload, Or.inr (hw₁.store ▸ h.spends)⟩) (Or.inl rfl))
        (Or.inl rfl)
  | requestEmailVerification =>
      exact does_payload hw (fun payload _ => (lifetime_keeps hw _).next (fun _ w₁ hw₁ =>
        (requestEmailVerification_commits hw₁ hs caller payload).does hissue
          fun c _ h => hnothing c h) trivial) trivial
  | applyEmailVerification =>
      exact does_payload hw (fun payload hpayload => (lifetime_keeps hw _).next
        (fun life w₁ hw₁ => (applyEmailVerification_commits hw₁ hs life payload).does
          (fun user _ _ h => Or.inr ⟨payload, hpayload, Or.inl ⟨user, h.1⟩⟩)
          fun _ _ h => Or.inr ⟨payload, hpayload, Or.inr (hw₁.store ▸ h.spends)⟩) (Or.inl rfl))
        (Or.inl rfl)
  | jwtEmail =>
      exact does_payload hw (fun payload hpayload =>
        (SignIn.withPassword_commits hw hs setup.codec payload).does
          (fun _ _ _ h => Or.inr ⟨payload, hpayload, h⟩)
          fun _ _ h => h.imp_right fun h => ⟨payload, hpayload, h⟩) (Or.inl rfl)
  | jwtGoogle =>
      exact does_payload hw (fun payload hpayload =>
        (SignIn.withProvider_commits hw hs setup.codec setup.providers .google payload).does
          (fun _ _ _ h => Or.inr ⟨payload, hpayload, h⟩)
          fun _ _ h => Or.inr ⟨payload, hpayload, h⟩) (Or.inl rfl)
  | jwtFacebook =>
      exact does_payload hw (fun payload hpayload =>
        (SignIn.withProvider_commits hw hs setup.codec setup.providers .facebook payload).does
          (fun _ _ _ h => Or.inr ⟨payload, hpayload, h⟩)
          fun _ _ h => Or.inr ⟨payload, hpayload, h⟩) (Or.inl rfl)
  | getOwnRoles =>
      dsimp only [Endpoint.run]
      cases caller.userId with
      | none => exact ⟨.nothing, trivial, hw.after⟩
      | some userId => exact (Roles.list_keeps hw caller userId).does trivial
  | createRole =>
      exact does_payload hw (fun payload _ => (Roles.create_commits hw hs caller payload).does
        (fun role commit _ h => hgrant role commit h) fun c _ h => hnothing c h) trivial
  | getRoles => exact (Roles.list_keeps hw caller _).does trivial
  | deleteRole =>
      refine (Roles.delete_commits hw hs caller _).does ?_ fun c _ h => hnothing c h
      rintro role _ - ⟨hpermits, rfl⟩
      exact hpermits
  | createDefaultRole =>
      exact (Roles.createDefault_commits hw hs caller _).does
        (fun role commit _ h => hgrant role commit h) fun c _ h => hnothing c h
  | deleteRoles =>
      refine (Roles.deleteAll_commits hw hs caller _).does ?_ fun c _ h => hnothing c h
      rintro roles _ - ⟨hpermits, rfl⟩
      exact hpermits

/-! ## Requests -/

/-- The route that a request takes, and the endpoint there. -/
def routed? (request : Http.Request) : Option (Route × Endpoint) :=
  (Route.ofPath? (routedPath request.path)).bind fun route =>
    (Endpoint.of? request.method route.kind).map (route, ·)

/-- The caller of a request that comes to an endpoint. -/
def callerOf? (setup : Setup) (request : Http.Request) (w : World) : Option Caller :=
  (routed? request).bind fun (_, endpoint) =>
    ((endpoint.caller setup request).exec w).1.toOption

/-- Who calls is not told by the body of the request. -/
theorem callerOf?_body {setup : Setup} {request : Http.Request} {w : World} (body : List UInt8) :
    callerOf? setup { request with body } w = callerOf? setup request w := rfl

/-- Without a token nobody is calling. -/
theorem Endpoint.caller_exec {setup : Setup} {request : Http.Request} {w : World}
    (hbearer : request.bearer? = none) (endpoint : Endpoint) :
    (endpoint.caller setup request).exec w = (.ok .anonymous, w) := by
  unfold Endpoint.caller authenticate
  rw [hbearer]
  split <;> rfl

theorem eq_anonymous_of_callerOf? {setup : Setup} {request : Http.Request} {w : World}
    {caller : Caller} (hbearer : request.bearer? = none)
    (h : callerOf? setup request w = some caller) : caller = .anonymous := by
  unfold callerOf? at h
  obtain ⟨⟨route, endpoint⟩, -, hcaller⟩ := Option.bind_eq_some_iff.mp h
  dsimp only at hcaller
  rw [endpoint.caller_exec hbearer] at hcaller
  exact (Option.some.inj hcaller).symm

/-- What a request may commit: nothing, or what its endpoint does for its caller. -/
def MayCommit (setup : Setup) (request : Http.Request) (w : World) (commit : Commit) : Prop :=
  commit = .nothing ∨ ∃ route endpoint caller, routed? request = some (route, endpoint)
    ∧ callerOf? setup request w = some caller ∧ caller.IsKnown w.store
    ∧ endpoint.Does setup request w.store caller commit

variable {w : World} {time : Int} {s : Store}

theorem authenticate_ends (hw : w.At time s) (hs : s.Sound) (setup : Setup)
    (request : Http.Request) :
    (authenticate setup request).Ends w (fun caller w' => caller.IsKnown s ∧ w'.At time s)
      (fun _ w' => w'.At time s) := by
  have hresolve : ∀ (email : Option JsonString) {w' : World}, w'.At time s →
      (resolveCaller email).Ends w' (fun caller w'' => caller.IsKnown s ∧ w''.At time s)
        (fun _ w'' => w''.At time s) := by
    intro email w' hw'
    refine (ends_resolveCaller hw' email).mono ?_ fun _ _ h => h
    rintro caller w'' ⟨hw'', hnobody | ⟨user, hfind, hcaller⟩⟩
    · exact ⟨Or.inl hnobody, hw''⟩
    · obtain ⟨address, -, hfound⟩ := Option.bind_eq_some_iff.mp hfind
      exact ⟨Or.inr ⟨user, (Store.findUserByAddress_eq_some hs hfound).1, hcaller⟩, hw''⟩
  unfold authenticate
  cases request.bearer? with
  | none => exact hresolve none hw
  | some token =>
      dsimp only
      rw [ends_bind, ends_get, ends_bind, ends_ofResult]
      split
      · exact hresolve _ hw
      · exact hw

theorem Endpoint.caller_ends (hw : w.At time s) (hs : s.Sound) (setup : Setup)
    (request : Http.Request) (endpoint : Endpoint) :
    (endpoint.caller setup request).Ends w (fun caller w' => caller.IsKnown s ∧ w'.At time s)
      (fun _ w' => w'.At time s) := by
  unfold Endpoint.caller
  split
  · exact ⟨Or.inl ⟨rfl, rfl⟩, hw⟩
  · exact authenticate_ends hw hs setup request

theorem dispatch_does (hw : w.At time s) (hs : s.Sound) (setup : Setup)
    (request : Http.Request) :
    (dispatch setup request).Does w time s (MayCommit setup request w) := by
  have hnothing : MayCommit setup request w .nothing := Or.inl rfl
  unfold dispatch
  cases hroute : Route.ofPath? (routedPath request.path) with
  | none => exact ⟨_, hnothing, hw.after⟩
  | some route =>
      dsimp only
      unfold call
      cases hendpoint : Endpoint.of? request.method route.kind with
      | none => exact ⟨_, hnothing, hw.after⟩
      | some endpoint =>
          have hrouted : routed? request = some (route, endpoint) := by
            simp only [routed?, hroute, Option.bind_some, hendpoint, Option.map_some]
          refine Ends.next (endpoint.caller_ends hw hs setup request).exec ?_
            fun _ _ h => ⟨_, hnothing, h.2.after⟩
          rintro caller w₁ ⟨hexec, hknown, hw₁⟩
          have hcaller : callerOf? setup request w = some caller := by
            simp only [callerOf?, hrouted, Option.bind_some, hexec, Except.toOption]
          refine Commits.mono (endpoint.run_does hw₁ hs setup request route caller) ?_ ?_
          · exact fun _ _ _ h => Or.inr ⟨route, endpoint, caller, hrouted, hcaller,
              hw.store ▸ hknown, hw.store ▸ h⟩
          · exact fun _ _ h => Or.inr ⟨route, endpoint, caller, hrouted, hcaller,
              hw.store ▸ hknown, hw.store ▸ h⟩

/-- A request commits what it may, whatever it is answered. -/
theorem exchange_commits (hw : w.At time s) (hs : s.Sound) (setup : Setup)
    (request : Http.Request) :
    ∃ commit, MayCommit setup request w commit
      ∧ (Session.exchange setup request w).2.After time s commit := by
  have hidle : ∃ commit, MayCommit setup request w commit ∧ w.After time s commit :=
    ⟨_, Or.inl rfl, hw.after⟩
  have hanswer : ∃ commit, MayCommit setup request w commit
      ∧ (answer setup request w).2.After time s commit := by
    unfold answer
    split
    · exact hidle
    · dsimp only
      split
      · split <;> exact hidle
      · split
        · exact hidle
        · have hdoes := dispatch_does hw hs setup request
          unfold Does Commits Ends at hdoes
          revert hdoes
          rcases (dispatch setup request).exec w with ⟨failure | value, w'⟩ <;> exact fun h => h
  obtain ⟨commit, hmay, hafter⟩ := hanswer
  refine ⟨commit, hmay, ?_⟩
  unfold Session.exchange
  dsimp only
  split
  · exact hafter
  · exact ⟨⟨hafter.at_apply.now, hafter.at_apply.store, hafter.at_apply.agrees⟩,
      hafter.admissible⟩

end Api

end Accounts
