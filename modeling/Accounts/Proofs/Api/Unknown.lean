import Accounts.Proofs.Api.Calls
import Accounts.Proofs.Api.Path

/-!
# Requests for what is not there

Where neither a route nor an endpoint is known, a request is answered without a look at anything but
its method and its path, and nothing changes (`unknown_refused`). The answer is the same for all
unknown methods and paths only as far as requests come to the routes as they are: methods that are
not routed and paths with line feeds inside are refused before, in other words, and a path with tabs
or carriage returns is looked up without them, so that it may well come to an endpoint.
-/

namespace Accounts.Api

open Op Http

variable {setup : Setup} {request : Request} {w : World}

/-- There is no endpoint for the path and the method of a request. -/
def IsUnknown (request : Request) : Prop :=
  ∀ route, Route.ofPath? request.path = some route → Endpoint.of? request.method route.kind = none

/-- A path that comes to the routes as it is. -/
def IsPlain (path : List Char) : Prop := isRoutable path = true ∧ '\t' ∉ path ∧ '\r' ∉ path

instance : DecidablePred IsPlain := fun _ => inferInstanceAs (Decidable (_ ∧ _ ∧ _))

theorem routed?_of_isUnknown (hunknown : IsUnknown request) (hplain : IsPlain request.path) :
    routed? request = none := by
  obtain ⟨hroutable, htab, hreturn⟩ := hplain
  unfold routed?
  cases hroute : Route.ofPath? (routedPath request.path) with
  | none => rfl
  | some route =>
      obtain ⟨route', hdenotes, hkind⟩ :=
        denotes_of_routedPath hroutable htab hreturn (Route.ofPath?_eq_some_iff.mp hroute)
      have hendpoint := hunknown route' (Route.ofPath?_eq_some_iff.mpr hdenotes)
      rw [hkind] at hendpoint
      rw [Option.bind_some, hendpoint]
      rfl

/-! ## Paths with tabs and line breaks -/

/-- The request for what is left of its path without tabs and line breaks. -/
def taken (request : Request) : Request := { request with path := unbroken request.path }

theorem isRoutable_unbroken (h : isRoutable request.path = true) :
    isRoutable (taken request).path = true := by
  obtain ⟨path, -, hline⟩ := isRoutable_iff.mp h
  have hfree : ∀ path, '\n' ∉ unbroken path := by
    intro path hmem
    exact absurd (List.mem_filter.mp hmem).2 (by decide)
  refine isRoutable_iff.mpr ⟨unbroken path, hfree path, Or.inl ?_⟩
  have hslash : unbroken ('/' :: path) = '/' :: unbroken path := rfl
  change unbroken request.path = _
  rcases hline with hline | hline
  · rw [hline, hslash]
  · rw [hline, ← hslash, unbroken, List.filter_append]
    exact List.append_nil _

/-- A path is taken for what is left of it. -/
theorem exchange_taken (h : isRoutable request.path = true) :
    Session.exchange setup request w = Session.exchange setup (taken request) w := by
  have hrouted : routedPath (taken request).path = routedPath request.path :=
    routedPath_unbroken request.path
  have hdispatch : dispatch setup request = dispatch setup (taken request) := by
    unfold dispatch
    rw [hrouted]
    rfl
  have hanswer : answer setup request w = answer setup (taken request) w := by
    unfold answer
    rw [h, isRoutable_unbroken h, hdispatch]
    rfl
  unfold Session.exchange
  rw [hanswer]

/-- A request for what is not there, unless it is a question beforehand. With a plain path and a
routed method it gets one refusal, whatever is sent along, and the world stays as it is. Other
methods and paths with line feeds inside are refused before the routes. Any other path is taken for
what is left of it. -/
theorem unknown_refused (setup : Setup) (request : Request) (w : World)
    (hpreflight : Cors.preflight? setup.origins request = none) (hunknown : IsUnknown request) :
    let allowOrigin := Cors.allowedOrigin? setup.origins request
    (IsPlain request.path → request.method ∈ routedMethods →
        Session.exchange setup request w =
          (⟨404, .json (.record [("error", .text "Not found")]), allowOrigin⟩, w))
      ∧ (isRoutable request.path = true → request.method ∉ routedMethods →
        Session.exchange setup request w = (detail 405 "Method Not Allowed" allowOrigin, w))
      ∧ (isRoutable request.path = false →
        Session.exchange setup request w =
          (if request.path ≠ ['/'] ∧ isRoutable (toggleSlash request.path) = true then
            ⟨307, .text "", allowOrigin⟩
          else detail 404 "Not Found" allowOrigin, w))
      ∧ (isRoutable request.path = true →
        Session.exchange setup request w = Session.exchange setup (taken request) w) := by
  intro allowOrigin
  refine ⟨fun hplain hmethod => ?_, fun hpath hmethod => ?_, fun hpath => ?_, exchange_taken⟩
  · have hdispatch := dispatch_of_routed?_eq_none setup (routed?_of_isUnknown hunknown hplain)
    have hmethod' : routedMethods.contains request.method = true :=
      List.contains_iff_mem.mpr hmethod
    refine exchange_of_kept ?_
    rw [answer_of_routed hpreflight hplain.1 hmethod', hdispatch]
    rfl
  · have hmethod' : routedMethods.contains request.method = false := by
      rw [← Bool.not_eq_true, List.contains_iff_mem]
      exact hmethod
    refine exchange_of_kept ?_
    unfold answer
    rw [hpreflight]
    simp only [hpath, hmethod', Bool.not_true, Bool.not_false, Bool.false_eq_true, if_false,
      if_true]
    rfl
  · refine exchange_of_kept ?_
    unfold answer
    rw [hpreflight]
    simp only [hpath, Bool.not_false, if_true]
    split <;> rfl

/-- Nothing can be done to all users at once, whatever is sent along. There is no route with a tab
in it, but the path is taken for one without. -/
theorem unknown_refused_of_patch :
    let setup : Setup :=
      ⟨⟨"secret", "HS256"⟩, ⟨"https://google", "https://facebook", .usual, fun _ => .timedOut⟩,
        .usual, .usual, 3600, []⟩
    let w : World := ⟨0, .empty, .empty 600 0, ⟨1, 0, true⟩, .start [], []⟩
    let patch : Request := ⟨"PATCH", "/users".toList, [], [("authorization", "Bearer x")], [0xFF]⟩
    let tabbed : Request := ⟨"GET", "/health\tcheck".toList, [], [], []⟩
    (IsUnknown patch ∧ Session.exchange setup patch w =
        (⟨404, .json (.record [("error", .text "Not found")]), none⟩, w))
      ∧ IsUnknown tabbed
      ∧ Session.exchange setup tabbed w = (⟨200, .json (.text "Ok"), none⟩, w) := by
  intro setup w patch tabbed
  have hpatch : IsUnknown patch := by
    intro route hroute
    have husers : Route.ofPath? patch.path = some ⟨.users, .absent⟩ := rfl
    rw [husers] at hroute
    obtain rfl := Option.some.inj hroute
    rfl
  have htabbed : IsUnknown tabbed := by
    intro route hroute
    have hnone : Route.ofPath? tabbed.path = none := rfl
    rw [hnone] at hroute
    cases hroute
  obtain ⟨hplain, -⟩ := unknown_refused setup patch w rfl hpatch
  obtain ⟨-, -, -, htaken⟩ := unknown_refused setup tabbed w rfl htabbed
  exact ⟨⟨hpatch, hplain (by decide) (by decide)⟩, htabbed, htaken rfl⟩

end Accounts.Api
