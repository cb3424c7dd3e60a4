import Accounts.Proofs.Run

/-!
# The calls of requests

A request comes to one call of a service at most: its endpoint reads the payload, finds out who is
calling, and either makes the one call that it is for or fails before it. `callOf?` is that call,
and `exchange_world` says that a request does to the world what its call does, and nothing without
one. Statements about the calls of a run hence cover requests and calls alike.
-/

namespace Accounts

open Op Http

/-! ## Who is calling -/

namespace Api

variable {setup : Setup} {request : Request} {w : World}

theorem resolveCaller_leaves (email : Option JsonString) :
    (resolveCaller email).Ends w (fun _ w' => w' = w) (fun _ w' => w' = w) := by
  unfold resolveCaller
  cases email with
  | none => rfl
  | some email =>
      dsimp only
      split
      · rfl
      · refine (ends_readBack _).next ?_ fun _ _ h => h
        rintro (_ | user) w' ⟨-, hw'⟩ <;> exact hw'

/-- Finding out who is calling changes nothing. -/
theorem Endpoint.caller_leaves (endpoint : Endpoint) :
    (endpoint.caller setup request).Ends w (fun _ w' => w' = w) (fun _ w' => w' = w) := by
  unfold Endpoint.caller
  split
  · rfl
  · unfold authenticate
    cases request.bearer? with
    | none => exact resolveCaller_leaves none
    | some token =>
        dsimp only
        rw [ends_bind, ends_get, ends_bind, ends_ofResult]
        split
        · exact resolveCaller_leaves _
        · rfl

theorem Endpoint.caller_world (endpoint : Endpoint) :
    ((endpoint.caller setup request).exec w).2 = w := by
  have hleaves : (endpoint.caller setup request).Ends w (fun _ w' => w' = w) fun _ w' => w' = w :=
    endpoint.caller_leaves
  rcases hleaves.cases with ⟨failure, w', hexec, hw'⟩ | ⟨caller, w', hexec, hw'⟩
  · rw [hexec]
    exact hw'
  · rw [hexec]
    exact hw'

/-! ## The call of an endpoint -/

/-- The lifetime of one-time tokens, if it is within bounds. -/
def lifetime? (setup : Setup) : Option Credentials.Lifetime :=
  let micros := setup.tokenSeconds * 1000000
  if Credentials.minLifetime ≤ micros ∧ micros ≤ Credentials.maxLifetime then some micros else none

/-- The call that an endpoint makes for a caller; there is none where the request fails before it,
and behind the endpoint that needs none. -/
def Endpoint.call? (setup : Setup) (request : Request) (route : Route) (caller : Caller) :
    Endpoint → Option Call
  | healthcheck => none
  | listUsers => do
    let fromId ← (queryInt request.query "from").toOption
    let count ← (queryInt request.query "count").toOption
    return .listUsers caller fromId count
  | createUser =>
    match h : payloadOf setup.bodyDepth NewIdentity.ofMembers request.body with
    | .ok payload => some (.createUser payload (isAddress_of_payloadOf h))
    | .error _ => none
  | currentUser => some (.currentUser caller)
  | getUser => some (.getUser caller (Route.idOf route))
  | updateUser => do
    let changes ← (payloadOf setup.bodyDepth UpdateProfile.ofMembers request.body).toOption
    return .updateUser caller (Route.idOf route) changes
  | deactivateUser => some (.deactivateUser caller (Route.idOf route))
  | getUserBySagaId => some (.findUserBySagaId caller (.text (Route.textOf route)))
  | revokeTokens => some (.revokeTokens caller (Route.idOf route))
  | changePassword => do
    let change ← (payloadOf setup.bodyDepth ChangeIdentityPassword.ofMembers request.body).toOption
    let _ ← lifetime? setup
    return .changePassword caller change
  | requestPasswordReset => do
    let wanted ← (payloadOf setup.bodyDepth ResetRequest.ofMembers request.body).toOption
    let _ ← lifetime? setup
    return .requestPasswordReset caller wanted
  | applyPasswordReset => do
    let reset ← (payloadOf setup.bodyDepth ResetApply.ofMembers request.body).toOption
    let life ← lifetime? setup
    return .applyPasswordReset life reset
  | requestEmailVerification => do
    let wanted ← (payloadOf setup.bodyDepth ResetRequest.ofMembers request.body).toOption
    let _ ← lifetime? setup
    return .requestEmailVerification caller wanted
  | applyEmailVerification => do
    let verification ← (payloadOf setup.bodyDepth EmailVerifyApply.ofMembers request.body).toOption
    let life ← lifetime? setup
    return .applyEmailVerification life verification
  | jwtEmail => do
    let login ← (payloadOf setup.bodyDepth EmailIdentity.ofMembers request.body).toOption
    return .signInWithPassword setup.codec login
  | jwtGoogle => do
    let login ← (payloadOf setup.bodyDepth ProviderOauth.ofMembers request.body).toOption
    return .signInWithProvider setup.codec setup.providers .google login
  | jwtFacebook => do
    let login ← (payloadOf setup.bodyDepth ProviderOauth.ofMembers request.body).toOption
    return .signInWithProvider setup.codec setup.providers .facebook login
  | getOwnRoles => do return .listRoles caller (← caller.userId)
  | createRole => do
    let payload ← (payloadOf setup.bodyDepth NewUserRole.ofMembers request.body).toOption
    return .createRole caller payload
  | getRoles => some (.listRoles caller (Route.idOf route))
  | deleteRole => some (.deleteRole caller (Route.idOf route))
  | createDefaultRole => some (.createDefaultRole caller (Route.idOf route))
  | deleteRoles => some (.deleteRoles caller (Route.idOf route))

end Api

namespace Op

variable {α : Type} {setup : Api.Setup} {request : Request}

/-- `op` makes a call and renders its answer; without a call it has a result at once. -/
def Makes (op : Op Json) : Option Call → Prop
  | some call => ∃ render : call.Answer → Json,
      op = call.op >>= fun answer => pure (render answer)
  | none => ∃ result : Except Failure Json, op = ofResult result

theorem makes_call (call : Call) (render : call.Answer → Json) :
    (call.op >>= fun answer => pure (render answer)).Makes (some call) := ⟨render, rfl⟩

/-- What comes before the call has a result at once. -/
theorem makes_bind {result : Except Failure α} {next : α → Op Json} {call? : α → Option Call}
    (h : ∀ value, result = .ok value → (next value).Makes (call? value)) :
    (ofResult result >>= next).Makes (result.toOption.bind call?) := by
  cases result with
  | error failure => exact ⟨.error failure, rfl⟩
  | ok value => exact h value rfl

theorem makes_payload {check : Payload.Members → Payload.Checked α} {next : α → Op Json}
    {call? : α → Option Call} (h : ∀ payload, (next payload).Makes (call? payload)) :
    (Api.payload setup request check >>= next).Makes
      ((Api.payloadOf setup.bodyDepth check request.body).toOption.bind call?) :=
  makes_bind fun payload _ => h payload

theorem makes_queryNumber {name : String} {next : Int → Op Json} {call? : Int → Option Call}
    (h : ∀ n, (next n).Makes (call? n)) :
    (Api.queryNumber request name >>= next).Makes
      ((queryInt request.query name).toOption.bind call?) := by
  unfold Api.queryNumber
  cases queryInt request.query name with
  | error problem => exact ⟨.error (.service (.field problem.field problem.text)), rfl⟩
  | ok n => exact h n

theorem makes_lifetime {next : Credentials.Lifetime → Op Json}
    {call? : Credentials.Lifetime → Option Call} (h : ∀ life, (next life).Makes (call? life)) :
    (Credentials.lifetime (setup.tokenSeconds * 1000000) >>= next).Makes
      ((Api.lifetime? setup).bind call?) := by
  unfold Credentials.lifetime Api.lifetime?
  dsimp only
  split
  · exact h _
  · exact ⟨.error (.crash .overflow), rfl⟩

end Op

namespace Api

variable {setup : Setup} {request : Request} {w : World}

/-- An endpoint makes the call that it is for. -/
theorem Endpoint.run_makes (route : Route) (caller : Caller) (endpoint : Endpoint) :
    (endpoint.run setup request route caller).Makes
      (endpoint.call? setup request route caller) := by
  cases endpoint with
  | healthcheck => exact ⟨.ok (.text "Ok"), rfl⟩
  | listUsers =>
      exact makes_queryNumber fun fromId => makes_queryNumber fun count =>
        makes_call (.listUsers caller fromId count) _
  | createUser =>
      unfold Endpoint.run Endpoint.call? payload
      dsimp only
      split
      · rename_i payload hpayload
        have hread : ofResult (payloadOf setup.bodyDepth NewIdentity.ofMembers request.body)
            = pure payload := by
          rw [hpayload]
          rfl
        rw [hread]
        exact makes_call (.createUser payload (isAddress_of_payloadOf hpayload)) _
      · rename_i failure hpayload
        rw [hpayload]
        exact ⟨.error failure, rfl⟩
  | currentUser => exact makes_call (.currentUser caller) _
  | getUser => exact makes_call (.getUser caller _) _
  | updateUser => exact makes_payload fun changes => makes_call (.updateUser caller _ changes) _
  | deactivateUser => exact makes_call (.deactivateUser caller _) _
  | getUserBySagaId => exact makes_call (.findUserBySagaId caller _) _
  | revokeTokens => exact makes_call (.revokeTokens caller _) _
  | changePassword =>
      exact makes_payload fun change => makes_lifetime fun _ =>
        makes_call (.changePassword caller change) _
  | requestPasswordReset =>
      exact makes_payload fun wanted => makes_lifetime fun _ =>
        makes_call (.requestPasswordReset caller wanted) _
  | applyPasswordReset =>
      exact makes_payload fun reset => makes_lifetime fun life =>
        makes_call (.applyPasswordReset life reset) _
  | requestEmailVerification =>
      exact makes_payload fun wanted => makes_lifetime fun _ =>
        makes_call (.requestEmailVerification caller wanted) _
  | applyEmailVerification =>
      exact makes_payload fun verification => makes_lifetime fun life =>
        makes_call (.applyEmailVerification life verification) _
  | jwtEmail =>
      exact makes_payload fun login => makes_call (.signInWithPassword setup.codec login) _
  | jwtGoogle =>
      exact makes_payload fun login =>
        makes_call (.signInWithProvider setup.codec setup.providers .google login) _
  | jwtFacebook =>
      exact makes_payload fun login =>
        makes_call (.signInWithProvider setup.codec setup.providers .facebook login) _
  | getOwnRoles =>
      unfold Endpoint.run Endpoint.call?
      cases caller.userId with
      | none => exact ⟨.error (.service (.unauthenticated .required)), rfl⟩
      | some userId => exact makes_call (.listRoles caller userId) _
  | createRole => exact makes_payload fun payload => makes_call (.createRole caller payload) _
  | getRoles => exact makes_call (.listRoles caller _) _
  | deleteRole => exact makes_call (.deleteRole caller _) _
  | createDefaultRole => exact makes_call (.createDefaultRole caller _) _
  | deleteRoles => exact makes_call (.deleteRoles caller _) _

/-! ## The call of a request -/

/-- The endpoint that a request comes to, and the route there. -/
def endpoint? (setup : Setup) (request : Request) : Option (Route × Endpoint) :=
  if (Cors.preflight? setup.origins request).isNone && isRoutable request.path
      && routedMethods.contains request.method then routed? request
  else none

theorem routed?_of_endpoint? {found : Route × Endpoint}
    (h : endpoint? setup request = some found) : routed? request = some found := by
  unfold endpoint? at h
  split at h
  · exact h
  · cases h

/-- Where a request goes is not told by its body. -/
theorem endpoint?_body (body : List UInt8) :
    endpoint? setup { request with body } = endpoint? setup request := rfl

/-- Finding out who calls leaves the world alone. -/
theorem caller_exec_of_callerOf? {route : Route} {endpoint : Endpoint} {caller : Caller}
    (hendpoint : endpoint? setup request = some (route, endpoint))
    (hcaller : callerOf? setup request w = some caller) :
    (endpoint.caller setup request).exec w = (.ok caller, w) := by
  unfold callerOf? at hcaller
  rw [routed?_of_endpoint? hendpoint] at hcaller
  replace hcaller : ((endpoint.caller setup request).exec w).1.toOption = some caller := hcaller
  have hworld : ((endpoint.caller setup request).exec w).2 = w := endpoint.caller_world
  rcases hresult : (endpoint.caller setup request).exec w with ⟨failure | other, w'⟩
  all_goals rw [hresult] at hcaller hworld
  · cases hcaller
  · cases hcaller
    rw [show w' = w from hworld]

/-- The call that a request comes to. -/
def callOf? (setup : Setup) (request : Request) (w : World) : Option Call :=
  (endpoint? setup request).bind fun (route, endpoint) =>
    ((endpoint.caller setup request).exec w).1.toOption.bind fun caller =>
      endpoint.call? setup request route caller

/-- Errors have statuses of errors. -/
theorem le_status (error : ServiceError) : 400 ≤ error.status := by
  cases error <;> simp [ServiceError.status]

/-- So have their answers, and those of faults. -/
theorem le_status_render (origin : Option String) (failure : Failure) :
    400 ≤ (render origin (.error failure)).status := by
  have hfault : 400 ≤ fault.status := by decide
  cases failure with
  | crash crash => exact hfault
  | service error =>
      unfold render
      dsimp only
      split
      · exact le_status error
      · exact hfault

/-- Only a value that can be sent is answered with success. -/
theorem render_of_status {origin : Option String} {result : Except Failure Json}
    (h : (render origin result).status = 200) :
    ∃ value, result = .ok value ∧ value.isTellable = true
      ∧ render origin result = ⟨200, .json value, origin⟩ := by
  cases result with
  | error failure =>
      have hle := le_status_render origin failure
      omega
  | ok value =>
      unfold render at h ⊢
      dsimp only at h ⊢
      split at h
      · rename_i htellable
        exact ⟨value, rfl, htellable, if_pos htellable⟩
      · cases h

/-- How an operation is answered, and what is left of it: if it is answered like an error, the
generated values that it used are given back. -/
def delivered (origin : Option String) (op : Op Json) (w : World) : Response × World :=
  let response := render origin (op.exec w).1
  (response, if response.status < 400 then (op.exec w).2 else Session.giveBack w (op.exec w).2)

theorem delivered_store (origin : Option String) (op : Op Json) (w : World) :
    (delivered origin op w).2.store = (op.exec w).2.store := by
  unfold delivered
  dsimp only
  split <;> rfl

/-- An operation that fails and leaves the world is answered with the failure, and that is all. -/
theorem delivered_of_failed {origin : Option String} {op : Op Json} {failure : Failure}
    (h : op.exec w = (.error failure, w)) : delivered origin op w =
      (render origin (.error failure), w) := by
  unfold delivered
  rw [h]
  dsimp only
  split <;> rfl

theorem delivered_of_status {origin : Option String} {op : Op Json}
    (h : (delivered origin op w).1.status = 200) :
    ∃ value w', op.exec w = (.ok value, w') ∧ value.isTellable = true
      ∧ delivered origin op w = (⟨200, .json value, origin⟩, w') := by
  obtain ⟨value, hresult, htellable, hrender⟩ :
      ∃ value, (op.exec w).1 = .ok value ∧ value.isTellable = true
        ∧ render origin (op.exec w).1 = ⟨200, .json value, origin⟩ := render_of_status h
  refine ⟨value, (op.exec w).2, Prod.ext hresult rfl, htellable, ?_⟩
  unfold delivered
  rw [hrender]
  rfl

theorem exchange_of_answer {origin : Option String} {op : Op Json}
    (h : answer setup request w = (render origin (op.exec w).1, (op.exec w).2)) :
    Session.exchange setup request w = delivered origin op w := by
  unfold Session.exchange delivered
  rw [h]

/-- Behind the checks of its path and its method, a request is answered as it is dispatched. -/
theorem answer_of_routed (hpreflight : Cors.preflight? setup.origins request = none)
    (hpath : isRoutable request.path = true)
    (hmethod : routedMethods.contains request.method = true) :
    answer setup request w =
      (render (Cors.allowedOrigin? setup.origins request) ((dispatch setup request).exec w).1,
        ((dispatch setup request).exec w).2) := by
  unfold answer
  rw [hpreflight]
  simp only [hpath, hmethod, Bool.not_true, Bool.false_eq_true, if_false]

/-- A request that comes to an endpoint is answered by it. -/
theorem exchange_of_endpoint? {route : Route} {endpoint : Endpoint}
    (h : endpoint? setup request = some (route, endpoint)) :
    Session.exchange setup request w = delivered (Cors.allowedOrigin? setup.origins request)
      (endpoint.caller setup request >>= fun caller =>
        endpoint.run setup request route caller) w := by
  unfold endpoint? at h
  split at h
  case isFalse => cases h
  rename_i hchecks
  simp only [Bool.and_eq_true, Option.isNone_iff_eq_none] at hchecks
  obtain ⟨⟨hpreflight, hpath⟩, hmethod⟩ := hchecks
  obtain ⟨found, hroute, hfind⟩ := Option.bind_eq_some_iff.mp h
  obtain ⟨other, hendpoint, hpair⟩ := Option.map_eq_some_iff.mp hfind
  obtain ⟨hfound, hother⟩ := Prod.mk.inj hpair
  subst hfound hother
  have hdispatch : dispatch setup request =
      other.caller setup request >>= fun caller => other.run setup request found caller := by
    unfold dispatch call
    rw [hroute]
    dsimp only
    rw [hendpoint]
  rw [← hdispatch]
  exact exchange_of_answer (answer_of_routed hpreflight hpath hmethod)

/-- A request whose endpoint fails and leaves the world is answered with the failure, and that is
all. -/
theorem exchange_of_failed {route : Route} {endpoint : Endpoint} {failure : Failure}
    (hendpoint : endpoint? setup request = some (route, endpoint))
    (hfails : (endpoint.caller setup request >>= fun caller =>
      endpoint.run setup request route caller).exec w = (.error failure, w)) :
    Session.exchange setup request w =
      (render (Cors.allowedOrigin? setup.origins request) (.error failure), w) := by
  rw [exchange_of_endpoint? hendpoint, delivered_of_failed hfails]

/-- A request that is answered with success is one whose endpoint came to a value that can be
sent. -/
theorem exec_of_status {route : Route} {endpoint : Endpoint}
    (hendpoint : endpoint? setup request = some (route, endpoint))
    (hstatus : (Session.exchange setup request w).1.status = 200) :
    ∃ caller value w', (endpoint.run setup request route caller).exec w = (.ok value, w')
      ∧ value.isTellable = true ∧ Session.exchange setup request w =
        (⟨200, .json value, Cors.allowedOrigin? setup.origins request⟩, w') := by
  rw [exchange_of_endpoint? hendpoint] at hstatus ⊢
  obtain ⟨value, w', hexec, htellable, hdelivered⟩ := delivered_of_status hstatus
  have hworld : ((endpoint.caller setup request).exec w).2 = w := endpoint.caller_world
  rw [exec_bind] at hexec
  rcases hcaller : (endpoint.caller setup request).exec w with ⟨failure | caller, w₁⟩
  all_goals rw [hcaller] at hexec hworld
  · cases hexec
  · obtain rfl : w₁ = w := hworld
    exact ⟨caller, value, w', hexec, htellable, hdelivered⟩

/-- Without an endpoint there is nothing to be found. -/
theorem dispatch_of_routed?_eq_none (setup : Setup) (h : routed? request = none) :
    dispatch setup request = Op.fail .noRoute := by
  unfold dispatch
  cases hroute : Route.ofPath? (routedPath request.path) with
  | none => rfl
  | some route =>
      have hendpoint : Endpoint.of? request.method route.kind = none := by
        simpa [routed?, hroute] using h
      unfold call
      dsimp only
      rw [hendpoint]

/-- An answer that leaves the world as it was is the whole exchange. -/
theorem exchange_of_kept {response : Response} (h : answer setup request w = (response, w)) :
    Session.exchange setup request w = (response, w) := by
  unfold Session.exchange
  rw [h]
  dsimp only
  split <;> rfl

/-- A request that comes to no endpoint is answered the same in all worlds, and changes nothing. -/
theorem answer_of_endpoint?_eq_none (h : endpoint? setup request = none) :
    ∃ response, ∀ w, answer setup request w = (response, w) := by
  by_cases hchecks : Cors.preflight? setup.origins request = none
      ∧ isRoutable request.path = true ∧ routedMethods.contains request.method = true
  · obtain ⟨hpreflight, hpath, hmethod⟩ := hchecks
    have hrouted : routed? request = none := by
      simpa only [endpoint?, hpreflight, hpath, hmethod, Option.isNone_none, Bool.and_self,
        if_true] using h
    refine ⟨render (Cors.allowedOrigin? setup.origins request) (.error (.service .noRoute)),
      fun w => ?_⟩
    rw [answer_of_routed hpreflight hpath hmethod, dispatch_of_routed?_eq_none setup hrouted]
    rfl
  · unfold answer
    cases hpreflight : Cors.preflight? setup.origins request with
    | some response => exact ⟨response, fun _ => rfl⟩
    | none =>
        dsimp only
        by_cases hpath : isRoutable request.path = true
        · have hmethod : ¬routedMethods.contains request.method = true :=
            fun hmethod => hchecks ⟨hpreflight, hpath, hmethod⟩
          simp only [hpath, hmethod, Bool.not_true, Bool.not_false, Bool.false_eq_true, if_false,
            if_true]
          exact ⟨_, fun _ => rfl⟩
        · simp only [hpath, Bool.not_false, if_true]
          split <;> exact ⟨_, fun _ => rfl⟩

theorem exchange_of_endpoint?_eq_none (h : endpoint? setup request = none) :
    ∃ response, ∀ w, Session.exchange setup request w = (response, w) := by
  obtain ⟨response, hanswer⟩ := answer_of_endpoint?_eq_none h
  exact ⟨response, fun w => exchange_of_kept (hanswer w)⟩

/-- A request does to the store what its call does. -/
theorem exchange_store (setup : Setup) (request : Request) (w : World) :
    (Session.exchange setup request w).2.store = match callOf? setup request w with
      | some call => (call.op.exec w).2.store
      | none => w.store := by
  unfold callOf?
  cases hendpoint : endpoint? setup request with
  | none =>
      obtain ⟨response, hexchange⟩ := exchange_of_endpoint?_eq_none hendpoint
      rw [hexchange]
      rfl
  | some found =>
      obtain ⟨route, endpoint⟩ := found
      rw [exchange_of_endpoint? hendpoint, delivered_store]
      simp only [Option.bind_some, exec_bind]
      have hworld : ((endpoint.caller setup request).exec w).2 = w := endpoint.caller_world
      rcases hcaller : (endpoint.caller setup request).exec w with ⟨failure | caller, w'⟩
      all_goals
        rw [hcaller] at hworld
        obtain rfl : w' = w := hworld
      · rfl
      · have hmakes : (endpoint.run setup request route caller).Makes
            (endpoint.call? setup request route caller) := endpoint.run_makes route caller
        simp only [Except.toOption, Option.bind_some]
        clear hcaller
        cases hcall : endpoint.call? setup request route caller with
        | none =>
            rw [hcall] at hmakes
            obtain ⟨result, hrun⟩ := hmakes
            rw [hrun]
            cases result <;> rfl
        | some call =>
            rw [hcall] at hmakes
            obtain ⟨shown, hrun⟩ := hmakes
            rw [hrun, exec_bind]
            dsimp only
            rcases call.op.exec w' with ⟨failure | value, w''⟩ <;> rfl

end Api

end Accounts
