import Accounts.Proofs.Api.Privilege

/-!
# Users do not touch each other

A request is about one address at most: the caller's own behind an endpoint that asks who is
calling, and behind a public one the address of the payload, of the fetched profile, or of the
presented token. Nothing of any other address changes.
-/

namespace Accounts

open Op

/-- The address of a caller who is a user. -/
def Caller.address? (caller : Caller) : Option String :=
  caller.userId.bind fun _ => caller.email.bind JsonString.text?

namespace Api

/-- The address that a request to an endpoint is about. -/
def Endpoint.address? (setup : Setup) (request : Http.Request) (s : Store) (caller : Caller) :
    Endpoint → Option String
  | healthcheck => none
  | createUser =>
      (payloadOf setup.bodyDepth NewIdentity.ofMembers request.body).toOption.map (·.email)
  | jwtEmail =>
      (payloadOf setup.bodyDepth EmailIdentity.ofMembers request.body).toOption.map (·.email)
  | jwtGoogle =>
      (payloadOf setup.bodyDepth ProviderOauth.ofMembers request.body).toOption.bind fun payload =>
        (SignIn.fetched setup.providers .google payload.token).toOption.map (·.email)
  | jwtFacebook =>
      (payloadOf setup.bodyDepth ProviderOauth.ofMembers request.body).toOption.bind fun payload =>
        (SignIn.fetched setup.providers .facebook payload.token).toOption.map (·.email)
  | applyPasswordReset =>
      (payloadOf setup.bodyDepth ResetApply.ofMembers request.body).toOption.bind fun payload =>
        (s.findToken payload.token .passwordReset).map (·.email)
  | applyEmailVerification =>
      (payloadOf setup.bodyDepth EmailVerifyApply.ofMembers request.body).toOption.bind
        fun payload => (s.findToken payload.token .emailVerify).map (·.email)
  | _ => caller.address?

/-- The address that a request is about, if it comes to an endpoint. -/
def addressOf? (setup : Setup) (request : Http.Request) (w : World) : Option String :=
  (routed? request).bind fun (_, endpoint) =>
    (callerOf? setup request w).bind fun caller =>
      endpoint.address? setup request w.store caller

variable {setup : Setup} {request : Http.Request} {s : Store} {caller : Caller} {commit : Commit}

/-- Without a superuser's grant, a licensed commit is about the caller's own address. -/
theorem email?_of_licensed (h : commit.Licensed s caller) (hadmissible : commit.Admissible s)
    (hknown : caller.IsKnown s) (hs : s.Sound) (hnot : ¬s.HoldsSuperuser caller) :
    commit = .nothing ∨ commit.email? = caller.address? := by
  -- Users who may be changed are the caller.
  have hself : ∀ {other : User} {action}, s.users.get? other.id = some other → action ≠ .read →
      s.Permits caller .users action (Users.targetOf other) →
      some other.email = caller.address? := by
    intro other action hother hread hpermits
    obtain ⟨user, huser, rfl, hcase⟩ := hknown.permits_cases hs hnot hpermits
    rcases hcase with hread' | ⟨-, howners⟩
    · exact absurd hread' hread
    · have hid : other.id = user.id := howners _ List.mem_cons_self
      rw [hid, huser] at hother
      rw [Option.some.inj hother]
      rfl
  have hchange := h.not_isRoleChange hknown hs hnot
  cases commit with
  | nothing => exact Or.inl rfl
  | revise before after =>
      obtain ⟨action, hread, hpermits⟩ := h
      exact Or.inr (hself hadmissible.found hread hpermits)
  | repassword before after identity =>
      exact Or.inr (hself hadmissible.1.found (by simp) h)
  | issue user row =>
      refine Or.inr (Eq.trans ?_ (hself hadmissible.1 (by simp) h.1))
      exact congrArg some h.2
  | grant role => exact absurd trivial hchange
  | revoke role => exact absurd trivial hchange
  | revokeAll userId => exact absurd trivial hchange
  | _ => exact h.elim

theorem email?_of_reconciles {profile : Profile} (h : SignIn.Reconciles profile commit)
    (hadmissible : commit.Admissible s) :
    commit = .nothing ∨ commit.email? = some profile.email := by
  rcases h with rfl | ⟨before, after, identity, rfl, hemail, -⟩ |
    ⟨user, identity, role, rfl, hemail, -⟩
  · exact Or.inl rfl
  · exact Or.inr (congrArg some (hadmissible.2.2.1.symm.trans hemail))
  · exact Or.inr (congrArg some hemail)

theorem email?_of_signsInBy {providers : SignIn.Providers} {provider : Provider} {token : String}
    (h : SignIn.SignsInBy providers provider token commit) (hadmissible : commit.Admissible s) :
    commit = .nothing
      ∨ commit.email? = (SignIn.fetched providers provider token).toOption.map (·.email) := by
  rcases h with rfl | ⟨profile, hprofile, hreconciles⟩
  · exact Or.inl rfl
  · rw [hprofile]
    exact email?_of_reconciles hreconciles hadmissible

/-- A token is spent, for what it stands for or for nothing, on the address that it was issued
for. -/
theorem email?_of_token {token : String} {tokenType : TokenType}
    (h : Credentials.Spends s token tokenType commit ∨ ∃ row,
      s.findToken token tokenType = some row ∧ commit.email? = some row.email) :
    commit = .nothing ∨ commit.email? = (s.findToken token tokenType).map (·.email) := by
  rcases h with (rfl | ⟨row, hfind, rfl⟩) | ⟨row, hfind, hemail⟩
  · exact Or.inl rfl
  · rw [hfind]
    exact Or.inr rfl
  · rw [hfind]
    exact Or.inr hemail

/-- What an endpoint commits is about the address of the request. -/
theorem Endpoint.Does.email? {endpoint : Endpoint}
    (h : endpoint.Does setup request s caller commit) (hadmissible : commit.Admissible s)
    (hknown : caller.IsKnown s) (hs : s.Sound) (hnot : ¬s.HoldsSuperuser caller) :
    commit = .nothing ∨ commit.email? = endpoint.address? setup request s caller := by
  cases endpoint with
  | healthcheck => exact Or.inl h
  | createUser =>
      rcases h with rfl | ⟨payload, user, hpayload, identity, role, rfl, hemail, -⟩
      · exact Or.inl rfl
      · refine Or.inr ?_
        rw [Endpoint.address?, hpayload]
        exact congrArg some hemail
  | jwtEmail =>
      rcases h with rfl | ⟨payload, hpayload, before, after, hemail, rfl⟩
      · exact Or.inl rfl
      · refine Or.inr ?_
        rw [Endpoint.address?, hpayload]
        exact congrArg some hemail
  | jwtGoogle =>
      rcases h with rfl | ⟨payload, hpayload, hsigns⟩
      · exact Or.inl rfl
      · rw [Endpoint.address?, hpayload]
        exact email?_of_signsInBy hsigns hadmissible
  | jwtFacebook =>
      rcases h with rfl | ⟨payload, hpayload, hsigns⟩
      · exact Or.inl rfl
      · rw [Endpoint.address?, hpayload]
        exact email?_of_signsInBy hsigns hadmissible
  | applyPasswordReset =>
      rcases h with rfl | ⟨payload, hpayload, ⟨user, row, before, identity, hfind, -, rfl⟩ | hspent⟩
      · exact Or.inl rfl
      · rw [Endpoint.address?, hpayload]
        exact email?_of_token (Or.inr ⟨row, hfind, rfl⟩)
      · rw [Endpoint.address?, hpayload]
        exact email?_of_token (Or.inl hspent)
  | applyEmailVerification =>
      rcases h with rfl | ⟨payload, hpayload, ⟨user, row, before, identity, hfind, rfl⟩ | hspent⟩
      · exact Or.inl rfl
      · rw [Endpoint.address?, hpayload]
        exact email?_of_token (Or.inr ⟨row, hfind, rfl⟩)
      · rw [Endpoint.address?, hpayload]
        exact email?_of_token (Or.inl hspent)
  | _ => exact email?_of_licensed h hadmissible hknown hs hnot

theorem MayCommit.email? {w : World} (h : MayCommit setup request w commit)
    (hadmissible : commit.Admissible w.store) (hs : w.store.Sound)
    (hnot : ∀ caller, callerOf? setup request w = some caller → ¬w.store.HoldsSuperuser caller) :
    commit = .nothing ∨ commit.email? = addressOf? setup request w := by
  rcases h with rfl | ⟨route, endpoint, caller, hrouted, hcaller, hknown, hdoes⟩
  · exact Or.inl rfl
  · simp only [addressOf?, hrouted, hcaller, Option.bind_some]
    exact hdoes.email? hadmissible hknown hs (hnot caller hcaller)

end Api

namespace Commit

variable {s : Store} {commit : Commit}

/-- A commit about no address, by which no grant changes, is none. -/
theorem eq_nothing_of_email? (h : commit.email? = none) (hchange : ¬commit.IsRoleChange) :
    commit = .nothing := by
  cases commit with
  | nothing => rfl
  | grant role => exact absurd trivial hchange
  | revoke role => exact absurd trivial hchange
  | revokeAll userId => exact absurd trivial hchange
  | _ => cases h

end Commit

/-- **Isolation between users.** What a request of somebody without a superuser's grant changes
belongs to one address, the one that the request is about; all other addresses are left alone, and
where a request is about no address, nothing changes at all. -/
theorem isolation (w : World) (hw : w.Reachable) (setup : Api.Setup) (request : Http.Request)
    (hnot : ∀ caller, Api.callerOf? setup request w = some caller →
      ¬w.store.HoldsSuperuser caller) :
    let s' := (Session.exchange setup request w).2.store
    (Api.addressOf? setup request w = none → s' = w.store)
      ∧ ∀ address, Api.addressOf? setup request w = some address →
        ∀ other ≠ address, Commit.SameAt other w.store s' := by
  have hsound := hw.settled.sound
  obtain ⟨commit, hmay, hafter⟩ :=
    Api.exchange_commits hw.settled.at_store hsound setup request
  have hchange := hmay.not_isRoleChange hsound hnot
  intro s'
  have hs' : s' = commit.apply w.store := hafter.at_apply.store
  have hemail := hmay.email? hafter.admissible hsound hnot
  rw [hs']
  refine ⟨fun hnone => ?_, fun address haddress other hother => ?_⟩
  · rcases hemail with rfl | hemail
    · rfl
    · rw [commit.eq_nothing_of_email? (hemail.trans hnone) hchange]
      rfl
  · refine Commit.sameAt_apply hsound hafter.admissible ?_
    rcases hemail with rfl | hemail
    · simp [Commit.email?]
    · rw [hemail, haddress]
      exact fun heq => hother (Option.some.inj heq).symm

/-- Somebody signs up where somebody else has. -/
theorem isolation_of_signup :
    let setup : Api.Setup :=
      ⟨⟨"secret", "HS256"⟩, ⟨"https://google", "https://facebook", .usual, fun _ => .timedOut⟩,
        .usual, .usual, 3600, []⟩
    let signup (body : String) : Http.Request :=
      ⟨"POST", "/users".toList, [], [], Text.Utf8.encode body.toList⟩
    let start : World := ⟨0, .empty, .empty 600 0, ⟨1, 0, true⟩, .start [], []⟩
    let w := start.step (.request setup
      (signup "\x7b\"email\":\"ann@example.com\",\"password\":\"password1\"\x7d"))
    let request := signup "\x7b\"email\":\"bob@example.com\",\"password\":\"password2\"\x7d"
    w.Reachable ∧ Api.addressOf? setup request w = some "bob@example.com"
      ∧ Commit.SameAt "ann@example.com" w.store (Session.exchange setup request w).2.store := by
  intro setup signup start w request
  have hw : w.Reachable := (World.Reachable.initial ⟨rfl, rfl⟩).step _
  have haddress : Api.addressOf? setup request w = some "bob@example.com" := by
    decide +kernel
  have hnot : ∀ caller, Api.callerOf? setup request w = some caller →
      ¬w.store.HoldsSuperuser caller := by
    rintro caller hcaller ⟨key, role, -, hid, -⟩
    rw [Api.eq_anonymous_of_callerOf? rfl hcaller] at hid
    cases hid
  have hisolation := (isolation w hw setup request hnot).2 _ haddress
  exact ⟨hw, haddress, hisolation "ann@example.com" (by decide)⟩

end Accounts
