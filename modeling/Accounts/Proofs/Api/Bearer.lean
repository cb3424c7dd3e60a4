import Accounts.Proofs.Api.Calls
import Accounts.Proofs.SessionToken.Refusal

/-!
# Requests with a token that is not read

Behind an endpoint that asks who is calling, nothing is done before the token is read. So a request
whose token is not read is answered with the failure of reading it, in the world it came to. A
refusal is the status of a caller who is not let in, unless it repeats a name that is no text, which
cannot be sent; and a token that derails is a fault of the service.
-/

namespace Accounts

open Op Http

namespace Api

variable {setup : Setup} {request : Request} {w : World}

/-- A token that is not read ends the request, and nothing else happens. -/
theorem exchange_of_unread {route : Route} {endpoint : Endpoint} {token : List Char}
    {failure : Failure} (hendpoint : endpoint? setup request = some (route, endpoint))
    (hprivate : endpoint.isPublic = false) (hbearer : request.bearer? = some token)
    (hdecode : setup.codec.decode setup.tokenDepth (w.now / 1000000) token = .error failure) :
    Session.exchange setup request w =
      (render (Cors.allowedOrigin? setup.origins request) (.error failure), w) := by
  have hcaller : (endpoint.caller setup request).exec w = (.error failure, w) := by
    unfold Endpoint.caller authenticate
    rw [hprivate, hbearer]
    have hget : (get : Op World).exec w = (.ok w, w) := rfl
    simp only [Bool.false_eq_true, if_false, exec_bind, hget, hdecode]
    rfl
  refine exchange_of_failed hendpoint ?_
  rw [exec_bind, hcaller]

end Api

open Api SessionToken

/-- **What becomes of a token that is not read.** A codec that signs, with a secret that it takes,
reads a token as somebody's address, refuses it with the reason, or comes to a fault over it, and
the last exactly if the token derails. Behind an endpoint that asks who is calling, a refused token
is answered with the status 401 and the reason, and one that derails with the status 500; a refusal
that repeats a name which is no text is answered like a fault too. The world stays as it is. -/
theorem unread_token_answered (codec : Codec)
    (halgorithm : codec.algorithm ∈ ["HS256", "HS384", "HS512"])
    (hencodes : ∃ email, (codec.encode? email).isSome = true) (token : List Char) :
    (∀ depth now, (∃ email, codec.decode depth now token = .ok email)
        ∨ (∃ problem, codec.decode depth now token = .error (refused problem))
        ∨ ∃ crash, codec.decode depth now token = .error (.crash crash))
      ∧ (∀ depth now crash,
        codec.decode depth now token = .error (.crash crash) ↔ Derails codec depth now token crash)
      ∧ ∀ (setup : Setup) (request : Request) (route : Route) (endpoint : Endpoint) (w : World),
        setup.codec = codec → endpoint? setup request = some (route, endpoint) →
        endpoint.isPublic = false → request.bearer? = some token →
        (∀ problem,
          codec.decode setup.tokenDepth (w.now / 1000000) token = .error (refused problem) →
          ((∀ codes, problem ≠ .criticalUnpaired codes) → Session.exchange setup request w =
            (⟨401, .json (.record [("error", .text ("Invalid token: " ++ problem.text))]),
              Cors.allowedOrigin? setup.origins request⟩, w))
          ∧ ∀ codes, problem = .criticalUnpaired codes →
            Session.exchange setup request w = (fault, w))
        ∧ ∀ crash, Derails codec setup.tokenDepth (w.now / 1000000) token crash →
          Session.exchange setup request w = (fault, w) := by
  obtain ⟨algorithm, hname, -⟩ := Algorithm.signs_of_mem halgorithm
  have htakes : algorithm.takes codec.secret = true := by
    obtain ⟨email, hsome⟩ := hencodes
    obtain ⟨other, hother, htakes⟩ := Codec.encode?_isSome_iff.mp hsome
    obtain rfl : algorithm = other := Option.some.inj (hname.symm.trans hother)
    exact htakes
  refine ⟨fun depth now => ?_, fun depth now crash => Codec.decode_eq_crash_iff hname htakes, ?_⟩
  · rcases Codec.decode_ends hname htakes depth now token with hread | hrefused | ⟨crash, hcrash, -⟩
    · exact Or.inl hread
    · exact Or.inr (Or.inl hrefused)
    · exact Or.inr (Or.inr ⟨crash, hcrash⟩)
  rintro setup request route endpoint w rfl hendpoint hprivate hbearer
  refine ⟨fun problem hrefused => ⟨fun htext => ?_, ?_⟩, fun crash hderails => ?_⟩
  · rw [exchange_of_unread hendpoint hprivate hbearer hrefused]
    have htellable : ServiceError.isTellable (.unauthenticated (.token problem)) = true := by
      cases problem with
      | criticalUnpaired codes => exact absurd rfl (htext codes)
      | _ => rfl
    unfold refused render
    dsimp only
    rw [if_pos htellable]
    rfl
  · rintro codes rfl
    exact exchange_of_unread hendpoint hprivate hbearer hrefused
  · exact exchange_of_unread hendpoint hprivate hbearer
      ((Codec.decode_eq_crash_iff hname htakes).mpr hderails)

/-- A signed payload with a number for an address passes all checks, and whoever shows it gets the
answer to a fault. -/
theorem unread_token_answered_of_number :
    let codec : Codec := ⟨"secret", "HS256"⟩
    let token := "eyJhbGciOiJIUzI1NiIsInR5cCI6IkpXVCJ9.eyJlbWFpbCI6NX0." ++
      "VTKAdz-Jkg1lECl3X5o8WEmJXeQvEqUVRHEtZcltdR8"
    let setup : Setup :=
      ⟨codec, ⟨"https://google", "https://facebook", .usual, fun _ => .timedOut⟩, .usual, .usual,
        3600, []⟩
    let request : Request :=
      ⟨"GET", "/users/current".toList, [], [("authorization", "Bearer " ++ token)], []⟩
    let w : World := ⟨0, .empty, .empty 600 0, ⟨1, 0, true⟩, .start [], []⟩
    Derails codec .usual 0 token.toList (.payload [⟨"email", .notText⟩])
      ∧ Session.exchange setup request w = (fault, w) := by
  intro codec token setup request w
  obtain ⟨-, hcrash, hanswered⟩ := unread_token_answered codec (by decide)
    ⟨"ann@example.com", Codec.encode?_isSome_iff.mpr ⟨.hs256, rfl, by decide⟩⟩ token.toList
  have hderails : Derails codec .usual 0 token.toList (.payload [⟨"email", .notText⟩]) :=
    (hcrash .usual 0 _).mp (by decide +kernel)
  obtain ⟨-, hfault⟩ := hanswered setup request ⟨.current, .absent⟩ .currentUser w rfl
    (by decide +kernel) rfl (by decide +kernel)
  exact ⟨hderails, hfault _ hderails⟩

end Accounts
