import Accounts.Proofs.History
import Accounts.Proofs.SessionToken

/-!
# Whom a session token stands for

A session token holds an address, and a caller who shows it is whoever has this address by then. So
it stands for one user for good, because users stay and keep their ids and addresses whatever
happens to the store (`World.Settled.user_run`), because two users never share an address, and
because signing in leaves an identity behind that names the user of its address
(`Store.Sound.user_of_identity`).
-/

namespace Accounts

open Op SignIn

/-! ## Signing in -/

/-- A session token that was handed out: the codec that signed it, the address that it holds, and
the provider of the identity that somebody signed in with. -/
structure Login where
  codec : SessionToken.Codec
  provider : Provider
  email : String
  token : String

/-- A call hands out a session token, for the address of its payload or of the profile that the
provider tells. -/
def Call.HandsOut (w : World) (login : Login) : Call → Prop
  | .signInWithPassword codec payload =>
    login.codec = codec ∧ login.provider = .email ∧ login.email = payload.email
      ∧ ((withPassword codec payload).exec w).1 = .ok login.token
  | .signInWithProvider codec providers provider payload =>
    login.codec = codec ∧ ((withProvider codec providers provider payload).exec w).1
        = .ok login.token
      ∧ ∃ profile, fetched providers provider payload.token = .ok profile
        ∧ login.provider = profile.provider ∧ login.email = profile.email
  | _ => False

/-- The token was made for the address, and the identity is there. -/
theorem Call.HandsOut.identity {w : World} (hw : w.Settled) {login : Login} {call : Call}
    (h : call.HandsOut w login) :
    login.codec.encode? login.email = some login.token
      ∧ ∃ identity, (call.op.exec w).2.store.findIdentity login.email login.provider
        = some identity := by
  unfold Call.HandsOut at h
  split at h
  · rename_i codec payload
    obtain ⟨rfl, hprovider, hemail, htoken⟩ := h
    rcases (withPassword_ends hw.sound login.codec payload).cases with
      ⟨failure, w', hexec, -⟩ | ⟨token, w', hexec, hencoded, user, hpasses, rfl⟩
    · rw [hexec] at htoken
      cases htoken
    · rw [hexec] at htoken
      obtain rfl := Except.ok.inj htoken
      obtain ⟨identity, hidentity, -⟩ := hpasses.password
      refine ⟨hemail ▸ hencoded, identity, ?_⟩
      have hworld : ((Call.signInWithPassword login.codec payload).op.exec w).2 = loggedIn w user :=
        congrArg Prod.snd hexec
      rw [hprovider, hemail, hworld]
      exact hidentity
  · rename_i codec providers provider payload
    obtain ⟨rfl, htoken, profile, hfetched, hprovider, hemail⟩ := h
    rcases (withProvider_ends hw.at_store hw.sound login.codec providers provider payload).cases
      with ⟨failure, w', hexec, -⟩ | ⟨token, w', hexec, same, hsame, hencoded, hidentity⟩
    · rw [hexec] at htoken
      cases htoken
    · rw [hexec] at htoken
      obtain rfl := Except.ok.inj htoken
      rw [hfetched] at hsame
      obtain rfl := Except.ok.inj hsame
      refine ⟨hemail ▸ hencoded, ?_⟩
      have hworld :
          ((Call.signInWithProvider login.codec providers provider payload).op.exec w).2 = w' :=
        congrArg Prod.snd hexec
      rw [hprovider, hemail, hworld]
      exact hidentity
  · exact h.elim

/-! ## Showing a token -/

theorem not_isAddress_empty : ¬Email.IsAddress "" := fun h => by
  have hcanonical := h.canonical
  cases hcanonical

/-- With a free slot, an address is resolved to the user who has it. -/
theorem Op.exec_resolveCaller {w : World} (hs : w.store.Sound) (hfree : w.slots.isFree = true)
    {user : User} (huser : w.store.users.get? user.id = some user) :
    (resolveCaller (some (.text user.email))).exec w
      = (.ok ⟨some user.id, some (.text user.email), .user user.id⟩, w) := by
  have hnonempty : JsonString.text user.email ≠ .text "" := fun hempty =>
    not_isAddress_empty (JsonString.text.inj hempty ▸ hs.user_email huser)
  have hfind : w.store.findUserByAddress (.text user.email) = some user :=
    (Store.findUserByEmail_iff hs).mpr ⟨huser, rfl⟩
  have hends : (resolveCaller (some (.text user.email))).Ends w
      (fun caller w' => caller = ⟨some user.id, some (.text user.email), .user user.id⟩ ∧ w' = w)
      (fun _ _ => False) := by
    unfold resolveCaller
    dsimp only
    rw [if_neg hnonempty, ends_bind, ends_withSlot, if_pos hfree, ends_read, hfind]
    exact ⟨rfl, rfl⟩
  rcases hends.cases with ⟨_, _, -, h⟩ | ⟨caller, w', hexec, rfl, rfl⟩
  · exact h.elim
  · exact hexec

namespace World

variable {w : World}

/-- An event hands out a session token. -/
def HandsOut (w : World) (event : Event) (login : Login) : Prop :=
  ∃ call, w.callOf? event = some call ∧ call.HandsOut w login

theorem HandsOut.identity {event : Event} {login : Login} (hw : w.Settled)
    (h : w.HandsOut event login) :
    login.codec.encode? login.email = some login.token
      ∧ ∃ identity, (w.step event).store.findIdentity login.email login.provider
        = some identity := by
  obtain ⟨call, hcall, hhands⟩ := h
  rw [step_store, hcall]
  exact hhands.identity hw

end World

/-- **A session token stands for one user for good.** A request or a call hands out a session token
of a codec that signs. Then there is the identity that was signed in with, and from then on, in
whatever state a run goes through, whoever shows the token to a server with this codec is let in as
the user whom the identity names, as long as a slot is free; and whenever a token for the same
address is handed out, by whatever way of signing in, the identity behind it names the same user. -/
theorem session_token_resolves {w : World} (hw : w.Reachable) {event : Event} {login : Login}
    (h : w.HandsOut event login) (hsigns : login.codec.algorithm ∈ ["HS256", "HS384", "HS512"]) :
    ∃ identity, (w.step event).store.findIdentity login.email login.provider = some identity
      ∧ ∀ later : List Event,
        let w' := (w.step event).run later
        (∀ (setup : Api.Setup) (request : Http.Request), setup.codec = login.codec →
          request.bearer? = some login.token.toList → w'.slots.isFree = true →
          (Api.authenticate setup request).exec w' =
            (.ok ⟨some identity.userId, some (.text login.email), .user identity.userId⟩, w'))
        ∧ ∀ (event' : Event) (login' : Login) (identity' : Identity), w'.HandsOut event' login' →
          login'.email = login.email →
          (w'.step event').store.findIdentity login'.email login'.provider = some identity' →
          identity'.userId = identity.userId := by
  obtain ⟨htoken, identity, hidentity⟩ := h.identity hw.settled
  have hstep := hw.settled.step event
  obtain ⟨user, huser, hemail⟩ := hstep.sound.user_of_identity hidentity
  refine ⟨identity, hidentity, fun later => ⟨?_, ?_⟩⟩
  · intro setup request hcodec hbearer hfree
    have hnow := (hstep.run later).sound
    obtain ⟨same, hsame, hkept⟩ := hstep.user_run huser later
    have hid : same.id = identity.userId := (hnow.user_id hsame).1
    have hsigned : SessionToken.Algorithm.ofName? login.codec.algorithm ≠ some .unsigned := by
      simp only [List.mem_cons, List.not_mem_nil, or_false] at hsigns
      rcases hsigns with hname | hname | hname <;> rw [hname] <;> decide
    have hdecode : ∀ depth now,
        setup.codec.decode depth now login.token.toList = .ok (.text login.email) :=
      hcodec ▸ SessionToken.Codec.decode_encode? htoken hsigned
    have hget : (get : Op World).exec ((w.step event).run later)
        = (.ok ((w.step event).run later), (w.step event).run later) := rfl
    unfold Api.authenticate
    rw [hbearer]
    dsimp only
    rw [exec_bind, hget]
    dsimp only
    rw [hdecode, ← hemail, ← hkept, ← hid]
    exact exec_resolveCaller hnow hfree (hid ▸ hsame)
  · intro event' login' identity' hhands hsame hidentity'
    have hrun := hstep.run later
    obtain ⟨user', huser', hemail'⟩ := (hrun.step event').sound.user_of_identity hidentity'
    obtain ⟨between, hbetween, hkept⟩ := hstep.user_run huser later
    obtain ⟨after, hafter, hlast⟩ := hrun.user_step hbetween event'
    refine (hrun.step event').sound.user_distinct huser' hafter ?_
    rw [hemail', hsame, hlast, hkept, hemail]

/-- Somebody signs in with one provider and shows the token a day later. -/
theorem session_token_resolves_of_login :
    let w : World := ⟨0, .empty, .empty 600 0, ⟨1, 0, true⟩, .start [], []⟩
    let reply : ProviderReply :=
      .response 200 (Text.Utf8.encode (Json.record [("email", .text "ann@example.com")]).print)
    let providers : Providers :=
      ⟨"https://google.test/", "https://facebook.test/", .usual, fun _ => reply⟩
    let codec : SessionToken.Codec := ⟨"secret", "HS256"⟩
    let event : Event := .call (.signInWithProvider codec providers .google ⟨"access"⟩)
    let token := "eyJhbGciOiJIUzI1NiIsInR5cCI6IkpXVCJ9.eyJlbWFpbCI6ImFubkBleGFtcGxlLmNvbSJ9."
      ++ "k61uHSYmRZlgGAAhnE3JNORNu2oB4GfEh2BSVt4ZpRw"
    let login : Login := ⟨codec, .google, "ann@example.com", token⟩
    let request : Http.Request :=
      ⟨"GET", "/user_roles".toList, [], [("authorization", "Bearer " ++ token)], []⟩
    let w' := (w.step event).run [.meanwhile 86400000000 ⟨1, 0, true⟩ (.start []) []]
    w.HandsOut event login
      ∧ (Api.authenticate ⟨codec, providers, .usual, .usual, 3600, []⟩ request).exec w'
        = (.ok ⟨some 1, some (.text "ann@example.com"), .user 1⟩, w') := by
  intro w reply providers codec event token login request w'
  have hw : w.Reachable := World.Reachable.initial ⟨rfl, rfl⟩
  have hhands : w.HandsOut event login := by
    refine ⟨_, rfl, rfl, ?_,
      .google (.text "") "ann@example.com" none none none none false, ?_, rfl, rfl⟩
    · decide +kernel
    · decide +kernel
  obtain ⟨identity, hidentity, hlater⟩ :=
    session_token_resolves hw hhands (List.mem_cons_self ..)
  have huserId : identity.userId = 1 := by
    have hmap : ((w.step event).store.findIdentity "ann@example.com" .google).map (·.userId)
        = some 1 := by decide +kernel
    rw [hidentity] at hmap
    exact Option.some.inj hmap
  have hcaller := (hlater [.meanwhile 86400000000 ⟨1, 0, true⟩ (.start []) []]).1
    ⟨codec, providers, .usual, .usual, 3600, []⟩ request rfl (by decide +kernel) rfl
  rw [huserId] at hcaller
  exact ⟨hhands, hcaller⟩

end Accounts
