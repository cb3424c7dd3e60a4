import Accounts.Proofs.Op
import Accounts.Service.SignIn

/-!
# Asking a provider for a profile

The token goes into the request as it came, and not every token fits: into a header only ASCII text
does, into an address only so many characters (`IsSendable`). Where it does not, the service comes
to a fault and nobody is asked. Where it does, one request goes out, and its reply either tells a
profile (`Tells`), or holds something that is nested too deep (`IsBottomless`), which is a fault as
well, or is reported as a failure of the provider. Signing in fails as the fetching does, and by
then it has not touched the store.
-/

namespace Accounts.SignIn

open Op

variable {providers : Providers} {provider : Provider} {token : String} {depth : Json.Depth}
  {reply : ProviderReply}

/-! ## Requests -/

/-- The longest text of a token, once it is written in a query, that Facebook can be sent. -/
def maxTokenLength : Nat := 65469

/-- A token that fits into the request for a profile. -/
def IsSendable : Provider → String → Prop
  | .facebook, token => (Http.escape token.toList).length ≤ maxTokenLength
  | _, token => ∀ c ∈ token.toList, c.toNat < 128

/-- What becomes of a token that does not. -/
def unsendable : Provider → Crash
  | .facebook => .address
  | _ => .headerEncoding

/-- The rest of the query takes 67 characters. -/
theorem length_queryText (token : String) :
    (Http.queryText [("fields", facebookFields), ("access_token", token)]).length
      = 67 + (Http.escape token.toList).length := by
  have hrest : Http.queryText [("fields", facebookFields), ("access_token", token)]
      = Http.escape "fields".toList ++ '=' :: Http.escape facebookFields.toList
        ++ '&' :: Http.escape "access_token".toList ++ '=' :: Http.escape token.toList := by
    unfold Http.queryText
    simp [List.intercalate]
  have hname : (Http.escape "fields".toList).length = 6 := by decide
  have hfields : (Http.escape facebookFields.toList).length = 46 := by decide
  have htoken : (Http.escape "access_token".toList).length = 12 := by decide
  rw [hrest]
  simp only [List.length_append, List.length_cons, hname, hfields, htoken]
  omega

/-- There is a request exactly for a token that fits into it. -/
theorem profileRequest_cases (providers : Providers) (provider : Provider) (token : String) :
    IsSendable provider token ∧ (∃ request, profileRequest providers provider token = .ok request)
      ∨ ¬IsSendable provider token
        ∧ profileRequest providers provider token = .error (unsendable provider) := by
  have hheader : (token.toList.all (·.toNat < 128)) = true ↔ ∀ c ∈ token.toList, c.toNat < 128 := by
    simp only [List.all_eq_true, decide_eq_true_eq]
  have hquery : (Http.queryText [("fields", facebookFields), ("access_token", token)]).length
      ≤ maxQueryLength ↔ (Http.escape token.toList).length ≤ maxTokenLength := by
    rw [length_queryText]
    unfold maxQueryLength maxTokenLength
    omega
  unfold profileRequest IsSendable unsendable
  cases provider with
  | facebook =>
      dsimp only
      rw [← hquery]
      split
      · rename_i h
        exact Or.inl ⟨h, _, rfl⟩
      · rename_i h
        exact Or.inr ⟨h, rfl⟩
  | _ =>
      dsimp only
      rw [← hheader]
      split
      · rename_i h
        exact Or.inl ⟨h, _, rfl⟩
      · rename_i h
        exact Or.inr ⟨h, rfl⟩

/-! ## Replies -/

/-- A reply that tells a profile: it is a good one, and its body is an object with the fields of the
provider's profiles. -/
def Tells (depth : Json.Depth) (provider : Provider) : ProviderReply → Profile → Prop
  | .response status body, profile => status = 200
    ∧ ∃ value, Json.parseOctets depth body = .ok value ∧ Profile.ofJson provider value = .ok profile
  | _, _ => False

/-- A good reply with a body that is nested too deep. -/
def IsBottomless (depth : Json.Depth) : ProviderReply → Prop
  | .response status body => status = 200 ∧ Json.parseOctets depth body = .error .tooDeep
  | _ => False

theorem Tells.value {profile : Profile} (h : Tells depth provider reply profile) :
    ∃ value, Profile.ofJson provider value = .ok profile := by
  cases reply with
  | response status body =>
      obtain ⟨-, value, -, hprofile⟩ := h
      exact ⟨value, hprofile⟩
  | _ => exact h.elim

theorem Tells.unique {profile other : Profile} (h : Tells depth provider reply profile)
    (h' : Tells depth provider reply other) : profile = other := by
  cases reply with
  | response status body =>
      obtain ⟨-, value, hparse, hprofile⟩ := h
      obtain ⟨-, value', hparse', hother⟩ := h'
      obtain rfl := Except.ok.inj (hparse.symm.trans hparse')
      exact Payload.Checked.ok.inj (hprofile.symm.trans hother)
  | _ => exact h.elim

theorem Tells.not_isBottomless {profile : Profile} (h : Tells depth provider reply profile) :
    ¬IsBottomless depth reply := by
  cases reply with
  | response status body =>
      obtain ⟨-, value, hparse, -⟩ := h
      rintro ⟨-, hdeep⟩
      rw [hparse] at hdeep
      cases hdeep
  | _ => exact h.elim

/-- A reply tells a profile, or is nested too deep, or the provider has failed. -/
theorem profileOfReply_cases (depth : Json.Depth) (provider : Provider) (reply : ProviderReply) :
    (∃ profile, Tells depth provider reply profile
        ∧ profileOfReply depth provider reply = .ok profile)
      ∨ IsBottomless depth reply ∧ profileOfReply depth provider reply = .error (.crash .tooDeep)
      ∨ (∀ profile, ¬Tells depth provider reply profile) ∧ ¬IsBottomless depth reply
        ∧ ∃ problem, profileOfReply depth provider reply
          = .error (.service (.providerFailed provider problem)) := by
  cases reply with
  | timedOut => exact Or.inr (Or.inr ⟨fun _ => id, id, _, rfl⟩)
  | failed message => exact Or.inr (Or.inr ⟨fun _ => id, id, _, rfl⟩)
  | response status body =>
      by_cases hstatus : status = 200
      case neg =>
        exact Or.inr (Or.inr ⟨fun _ h => hstatus h.1, fun h => hstatus h.1, _, if_pos hstatus⟩)
      subst hstatus
      dsimp only [Tells, IsBottomless, profileOfReply]
      rw [if_neg fun hne => hne rfl]
      cases Json.parseOctets depth body with
      | error problem =>
          cases problem with
          | tooDeep => exact Or.inr (Or.inl ⟨⟨rfl, rfl⟩, rfl⟩)
          | malformed =>
              refine Or.inr (Or.inr ⟨?_, ?_, _, rfl⟩)
              · rintro _ ⟨-, _, h, -⟩
                cases h
              · rintro ⟨-, h⟩
                cases h
      | ok value =>
          dsimp only
          cases hprofile : Profile.ofJson provider value with
          | ok profile => exact Or.inl ⟨profile, ⟨rfl, value, rfl, hprofile⟩, rfl⟩
          | bad complaints =>
              refine Or.inr (Or.inr ⟨?_, ?_, _, rfl⟩)
              · rintro _ ⟨-, _, h, htold⟩
                obtain rfl := Except.ok.inj h
                rw [hprofile] at htold
                cases htold
              · rintro ⟨-, h⟩
                cases h

theorem profileOfReply_eq_ok_iff {profile : Profile} :
    profileOfReply depth provider reply = .ok profile ↔ Tells depth provider reply profile := by
  rcases profileOfReply_cases depth provider reply with
    ⟨told, htells, hok⟩ | ⟨hdeep, hcrash⟩ | ⟨hnone, -, problem, hproblem⟩
  · rw [hok]
    refine ⟨fun h => Except.ok.inj h ▸ htells, fun h => ?_⟩
    rw [htells.unique h]
  · rw [hcrash]
    exact ⟨fun h => (by cases h), fun h => absurd hdeep h.not_isBottomless⟩
  · rw [hproblem]
    exact ⟨fun h => (by cases h), fun h => absurd h (hnone profile)⟩

theorem profileOfReply_eq_crash_iff {fault : Crash} :
    profileOfReply depth provider reply = .error (.crash fault)
      ↔ fault = .tooDeep ∧ IsBottomless depth reply := by
  rcases profileOfReply_cases depth provider reply with
    ⟨told, htells, hok⟩ | ⟨hdeep, hcrash⟩ | ⟨-, hshallow, problem, hproblem⟩
  · rw [hok]
    exact ⟨fun h => (by cases h), fun h => absurd h.2 htells.not_isBottomless⟩
  · rw [hcrash]
    refine ⟨fun h => ?_, fun h => by rw [h.1]⟩
    cases h
    exact ⟨rfl, hdeep⟩
  · rw [hproblem]
    exact ⟨fun h => (by cases h), fun h => absurd h.2 hshallow⟩

/-! ## Fetching -/

/-- With a request, fetching notes it, and answers as the reply to it says. -/
theorem exec_fetchProfile {request : ProviderRequest}
    (hrequest : profileRequest providers provider token = .ok request) (w : World) :
    (fetchProfile providers provider token).exec w =
      (profileOfReply providers.depth provider (providers.reply request),
        { w with requests := w.requests ++ [request] }) := by
  have hnote : (modify fun w => { w with requests := w.requests ++ [request] } : Op Unit).exec w
      = (.ok (), { w with requests := w.requests ++ [request] }) := rfl
  unfold fetchProfile
  rw [hrequest]
  dsimp only
  rw [exec_bind, hnote]
  cases profileOfReply providers.depth provider (providers.reply request) <;> rfl

/-- Without one, it ends in a fault. -/
theorem exec_fetchProfile_error {fault : Crash}
    (hrequest : profileRequest providers provider token = .error fault) (w : World) :
    (fetchProfile providers provider token).exec w = (.error (.crash fault), w) := by
  unfold fetchProfile
  rw [hrequest]
  rfl

/-- Fetching changes nothing but what is noted of requests. -/
theorem world_of_fetchProfile (providers : Providers) (provider : Provider) (token : String)
    (w : World) : ∃ requests,
      ((fetchProfile providers provider token).exec w).2 = { w with requests := requests } := by
  rcases profileRequest_cases providers provider token with ⟨-, request, hrequest⟩ | ⟨-, hrequest⟩
  · exact ⟨_, congrArg Prod.snd (exec_fetchProfile hrequest w)⟩
  · exact ⟨w.requests, congrArg Prod.snd (exec_fetchProfile_error hrequest w)⟩

/-- **Fetching a profile reports what goes wrong with the provider.** With a token that fits into
the request, one request goes out; there is a profile exactly if the reply tells it, a fault exactly
if the reply is nested too deep, and in every other case the failure of the provider. With a token
that does not fit there is a fault and no request. However it failed, signing in fails in the same
way, and nothing is changed but what is noted of requests. -/
theorem profile_fetched_or_reported (providers : Providers) (provider : Provider)
    (payload : ProviderOauth) (w : World) :
    let fetch := (fetchProfile providers provider payload.token).exec w
    (IsSendable provider payload.token → ∃ request,
        profileRequest providers provider payload.token = .ok request
        ∧ fetch.2 = { w with requests := w.requests ++ [request] }
        ∧ (∀ profile, fetch.1 = .ok profile
          ↔ Tells providers.depth provider (providers.reply request) profile)
        ∧ (∀ fault, fetch.1 = .error (.crash fault)
          ↔ fault = .tooDeep ∧ IsBottomless providers.depth (providers.reply request))
        ∧ ((∀ profile, ¬Tells providers.depth provider (providers.reply request) profile) →
          ¬IsBottomless providers.depth (providers.reply request) →
          ∃ problem, fetch.1 = .error (.service (.providerFailed provider problem))))
      ∧ (¬IsSendable provider payload.token → fetch = (.error (.crash (unsendable provider)), w))
      ∧ ∀ codec failure, fetch.1 = .error failure →
        (withProvider codec providers provider payload).exec w = (.error failure, fetch.2)
          ∧ fetch.2 = { w with requests := fetch.2.requests } := by
  intro fetch
  refine ⟨fun hsendable => ?_, fun hsendable => ?_, fun codec failure hfailed => ⟨?_, ?_⟩⟩
  · rcases profileRequest_cases providers provider payload.token with
      ⟨-, request, hrequest⟩ | ⟨hno, -⟩
    case inr => exact absurd hsendable hno
    have hfetch : fetch = _ := exec_fetchProfile hrequest w
    refine ⟨request, hrequest, congrArg Prod.snd hfetch, ?_⟩
    rw [hfetch]
    refine ⟨fun _ => profileOfReply_eq_ok_iff, fun _ => profileOfReply_eq_crash_iff,
      fun hnone hshallow => ?_⟩
    rcases profileOfReply_cases providers.depth provider (providers.reply request) with
      ⟨profile, htells, -⟩ | ⟨hdeep, -⟩ | ⟨-, -, hfailed⟩
    · exact absurd htells (hnone profile)
    · exact absurd hdeep hshallow
    · exact hfailed
  · rcases profileRequest_cases providers provider payload.token with ⟨hyes, -⟩ | ⟨-, hrequest⟩
    · exact absurd hyes hsendable
    · exact exec_fetchProfile_error hrequest w
  · have hfetch : (fetchProfile providers provider payload.token).exec w
        = (.error failure, fetch.2) := Prod.ext hfailed rfl
    unfold withProvider
    rw [exec_bind, hfetch]
  · obtain ⟨requests, hworld⟩ := world_of_fetchProfile providers provider payload.token w
    have hfetch : fetch.2 = { w with requests := requests } := hworld
    rw [hfetch]

/-- The same token is a fault for Google, where nobody is asked, and a request to Facebook. -/
theorem profile_fetched_or_reported_of_ideographs :
    let providers : Providers :=
      ⟨"https://google", "https://facebook", .usual, fun _ => .response 401 []⟩
    let payload : ProviderOauth := ⟨"日本"⟩
    let w : World := ⟨0, .empty, .empty 600 0, ⟨1, 0, true⟩, .start [], []⟩
    (fetchProfile providers .google payload.token).exec w = (.error (.crash .headerEncoding), w)
      ∧ ∃ problem, ((fetchProfile providers .facebook payload.token).exec w).1
        = .error (.service (.providerFailed .facebook problem)) := by
  intro providers payload w
  have hideograph : '日' ∈ payload.token.toList := by decide
  have hgoogle : ¬IsSendable .google payload.token := fun h =>
    absurd (h '日' hideograph) (by decide)
  have hfacebook : IsSendable .facebook payload.token := by
    unfold IsSendable
    decide
  refine ⟨(profile_fetched_or_reported providers .google payload w).2.1 hgoogle, ?_⟩
  obtain ⟨request, -, -, -, -, hfailed⟩ :=
    (profile_fetched_or_reported providers .facebook payload w).1 hfacebook
  exact hfailed (fun _ h => absurd h.1 (by decide)) fun h => absurd h.1 (by decide)

end Accounts.SignIn
