import Accounts.Http.Url
import Accounts.Proofs.Api.Calls
import Accounts.Proofs.Api.Path

/-!
# What requests are routed by

A request is not routed by its path as it came, but by the path of its address, which is put
together from the path and taken apart again (`pathOf_address`). On the way tabs and line breaks are
lost, and escapes come to stand for the characters that would end a path. So a request gets the
route of its own path unless one of these characters stands in a name, or something is only a route
without them (`routed_by_address`).
-/

namespace Accounts.Api

open Op Http

variable {request : Request} {path : List Char} {route : Route}

/-! ## The path of an address -/

/-- What stands for a character of a path in an address. Those that would end the path are escaped.
-/
def quoted (c : Char) : List Char :=
  if c = '?' then "%3F".toList
  else if c = '#' then "%23".toList
  else if c = '\\' then "%5C".toList
  else [c]

/-- The address that a request is for. -/
def address (path query : List Char) : List Char :=
  "http://testserver".toList ++
    (path.flatMap quoted ++ if query.isEmpty then [] else '?' :: query)

theorem escape_eq (c : Char) : escape c = if isBreak c then [] else quoted c := rfl

theorem unbroken_quoted (c : Char) : unbroken (quoted c) = escape c := by
  by_cases hc : c ∈ altered
  · have hfew : altered.Forall fun c => unbroken (quoted c) = escape c := by decide
    exact List.forall_iff_forall_mem.mp hfew c hc
  · have hstays : isBreak c = false := isBreak_of_not_mem_altered hc
    have hquoted : quoted c = escape c := by
      rw [escape_eq, hstays]
      rfl
    rw [hquoted, escape_of_not_mem_altered hc, unbroken,
      List.filter_cons_of_pos (by rw [hstays]; rfl)]
    rfl

theorem unbroken_flatMap_quoted (path : List Char) :
    unbroken (path.flatMap quoted) = routedPath path := by
  unfold unbroken
  rw [List.filter_flatMap, routedPath_eq_flatMap]
  exact congrArg path.flatMap (funext unbroken_quoted)

/-- The path of an address goes from the host to the first character that ends it. -/
theorem pathOf_host (text : List Char) :
    Url.pathOf ("http://testserver".toList ++ '/' :: text)
      = .ok ((unbroken ('/' :: text)).takeWhile fun c => c != '?' && c != '#') := by
  have hbreaks : (fun c : Char => c != '\t' && c != '\r' && c != '\n') = (!isBreak ·) := by
    funext c
    simp only [isBreak, Bool.not_or, bne, ← Bool.beq_eq_decide_eq]
  unfold Url.pathOf
  rw [hbreaks]
  rfl

/-- The path that routes are looked up by is the one that is found in the address. -/
theorem pathOf_address (rest query : List Char) :
    Url.pathOf (address ('/' :: rest) query) = .ok (routedPath ('/' :: rest)) := by
  have haddress : address ('/' :: rest) query = "http://testserver".toList ++
      '/' :: (rest.flatMap quoted ++ if query.isEmpty then [] else '?' :: query) := rfl
  have hplain : ∀ c ∈ routedPath ('/' :: rest), (c != '?' && c != '#') = true := by
    intro c hc
    rw [Bool.and_eq_true, bne_iff_ne, bne_iff_ne]
    constructor
    · rintro rfl
      exact not_mem_routedPath (by decide) _ hc
    · rintro rfl
      exact not_mem_routedPath (by decide) _ hc
  have hpath : unbroken ('/' :: (rest.flatMap quoted ++ if query.isEmpty then [] else '?' :: query))
      = routedPath ('/' :: rest) ++ unbroken (if query.isEmpty then [] else '?' :: query) := by
    rw [← unbroken_flatMap_quoted]
    exact List.filter_append (('/' :: rest).flatMap quoted) _
  rw [haddress, pathOf_host, hpath, List.takeWhile_append_of_pos hplain]
  cases query with
  | nil => exact congrArg Except.ok (List.append_nil _)
  | cons c query => exact congrArg Except.ok (List.append_nil _)

/-! ## The route of a request -/

/-- The route that a request for a path is dispatched on. -/
def routeOf? (path : List Char) : Option Route :=
  if isRoutable path then Route.ofPath? (routedPath path) else none

/-- The answer to a request that has a route, or has none. -/
def answerOn (setup : Setup) (request : Request) (route : Option Route) (w : World) :
    Response × World :=
  let dispatched : Op Json := match route with
    | some route => call setup request route
    | none => Op.fail .noRoute
  let (result, w) := dispatched.exec w
  (render (Cors.allowedOrigin? setup.origins request) result, w)

/-- Only `OPTIONS` asks beforehand, and is not routed. -/
theorem preflight?_of_mem_routedMethods (origins : List String)
    (hmethod : request.method ∈ routedMethods) : Cors.preflight? origins request = none := by
  have hoptions : (request.method != "OPTIONS") = true := by
    rw [bne_iff_ne]
    intro heq
    rw [heq] at hmethod
    exact absurd hmethod (by decide)
  unfold Cors.preflight?
  simp only [hoptions, if_true]
  cases request.header? "origin" with
  | none => rfl
  | some origin =>
      cases request.header? "access-control-request-method" with
      | none => rfl
      | some method => rfl

theorem answer_eq_answerOn (setup : Setup) (w : World) (hmethod : request.method ∈ routedMethods)
    (hpath : isRoutable request.path = true) :
    answer setup request w = answerOn setup request (routeOf? request.path) w := by
  have hmethod' : routedMethods.contains request.method = true :=
    List.contains_iff_mem.mpr hmethod
  have hroute : routeOf? request.path = Route.ofPath? (routedPath request.path) := if_pos hpath
  rw [answer_of_routed (preflight?_of_mem_routedMethods setup.origins hmethod) hpath hmethod',
    hroute]
  unfold dispatch answerOn
  cases Route.ofPath? (routedPath request.path) <;> rfl

theorem mem_of_reads_name {shape : Shape} {name : List Char} (h : shape.Reads path (.text name))
    {c : Char} (hc : c ∈ name) : c ∈ path := by
  cases h with
  | named hne hslash => exact List.mem_append_right _ hc

/-- A path is dispatched on its own route exactly if nothing in its name is dropped or escaped. -/
theorem routeOf?_eq_some_iff (h : Route.ofPath? path = some route) :
    routeOf? path = some route ↔ ∀ name, route.param = .text name → ∀ c ∈ name, c ∉ altered := by
  have hdenotes : Route.Denotes path route := Route.ofPath?_eq_some_iff.mp h
  constructor
  · intro hrouted name hparam c hc haltered
    unfold routeOf? at hrouted
    split at hrouted
    · have hreads : route.kind.shape.Reads (routedPath path) route.param :=
        Route.ofPath?_eq_some_iff.mp hrouted
      rw [hparam] at hreads
      exact not_mem_routedPath haltered path (mem_of_reads_name hreads hc)
    · cases hrouted
  · intro hname
    obtain ⟨text, hline, hstart, htext, hreads⟩ := exists_line_of_reads (head_opening route.kind)
      (not_mem_altered_of_mem_texts route.kind) hname hdenotes
    have hroutable : isRoutable path = true :=
      isRoutable_of_isLine hstart (fun hmem => htext '\n' hmem (by decide)) hline
    unfold routeOf?
    rw [if_pos hroutable, routedPath_of_isLine hline, routedPath_eq_self_iff.mpr htext]
    exact Route.ofPath?_eq_some_iff.mpr hreads

theorem routeOf?_of_isRoutable (h : isRoutable path = true) :
    routeOf? path = (Route.ofPath? (unbroken path)).map escapedRoute := by
  unfold routeOf?
  rw [if_pos h, ofPath?_routedPath]

theorem routeOf?_eq_none_iff :
    routeOf? path = none ↔ (isRoutable path = true → Route.ofPath? (unbroken path) = none) := by
  by_cases h : isRoutable path = true
  · rw [routeOf?_of_isRoutable h, Option.map_eq_none_iff]
    exact ⟨fun hnone _ => hnone, fun hnone => hnone h⟩
  · unfold routeOf?
    rw [if_neg h]
    exact ⟨fun _ hroutable => absurd hroutable h, fun _ => rfl⟩

/-- A path for which there is no route gets none, if tabs and carriage returns do not stand in it.
-/
theorem routeOf?_eq_none (h : Route.ofPath? path = none) (htab : '\t' ∉ path)
    (hreturn : '\r' ∉ path) : routeOf? path = none := by
  unfold routeOf?
  split
  · rename_i hroutable
    refine Option.eq_none_iff_forall_ne_some.mpr fun route hroute => ?_
    obtain ⟨route', hdenotes, -⟩ :=
      denotes_of_routedPath hroutable htab hreturn (Route.ofPath?_eq_some_iff.mp hroute)
    rw [Route.ofPath?_eq_some_iff.mpr hdenotes] at h
    cases h
  · rfl

/-- A request with a routed method is answered by the route of the path in its address, which is the
route of its own path without tabs and line breaks, with its name escaped. It is the route of the
path itself exactly if nothing in the name is dropped or escaped and, where the path has no route,
it has none without tabs and line breaks either. -/
theorem routed_by_address (setup : Setup) (request : Request)
    (hmethod : request.method ∈ routedMethods) :
    let path := request.path
    (isRoutable path = true → Url.pathOf (address path request.query) = .ok (routedPath path)
        ∧ routeOf? path = (Route.ofPath? (unbroken path)).map escapedRoute
        ∧ ∀ w, answer setup request w = answerOn setup request (routeOf? path) w)
      ∧ (isRoutable path = false → routeOf? path = none
        ∧ ∃ response, ∀ w, answer setup request w = (response, w))
      ∧ (routeOf? path = Route.ofPath? path ↔
        (∀ route name, Route.ofPath? path = some route → route.param = .text name →
            ∀ c ∈ name, c ∉ altered)
          ∧ (Route.ofPath? path = none → isRoutable path = true →
            Route.ofPath? (unbroken path) = none))
      ∧ (Route.ofPath? path = none → '\t' ∉ path → '\r' ∉ path → routeOf? path = none) := by
  intro path
  refine ⟨fun hpath => ⟨?_, routeOf?_of_isRoutable hpath,
    fun w => answer_eq_answerOn setup w hmethod hpath⟩, fun hpath => ⟨?_, ?_⟩, ?_,
    routeOf?_eq_none⟩
  · obtain ⟨rest, -, hline⟩ := isRoutable_iff.mp hpath
    obtain ⟨tail, htail⟩ := hline.starts
    rw [← htail]
    exact pathOf_address (rest ++ tail) request.query
  · exact routeOf?_eq_none_iff.mpr fun hroutable => absurd hroutable (by rw [hpath]; decide)
  · have hendpoint : endpoint? setup request = none := by
      have hpath' : isRoutable request.path = false := hpath
      unfold endpoint?
      rw [hpath', Bool.and_false, Bool.false_and]
      rfl
    exact answer_of_endpoint?_eq_none hendpoint
  · cases hroute : Route.ofPath? path with
    | none =>
        rw [routeOf?_eq_none_iff]
        exact ⟨fun h => ⟨nofun, fun _ => h⟩, fun h => h.2 rfl⟩
    | some route =>
        rw [routeOf?_eq_some_iff hroute]
        refine ⟨fun h => ⟨?_, nofun⟩, fun h name => h.1 route name rfl⟩
        rintro _ name ⟨⟩
        exact h name

/-- A name may come with an escape, and a path with a tab may come to a route that it is not the
path of. -/
theorem routed_by_address_of_mark :
    let setup : Setup :=
      ⟨⟨"secret", "HS256"⟩, ⟨"https://google", "https://facebook", .usual, fun _ => .timedOut⟩,
        .usual, .usual, 3600, []⟩
    let marked : Request := ⟨"GET", "/users_by_saga_id/a?b".toList, [], [], []⟩
    let tabbed : Request := ⟨"GET", "/health\tcheck".toList, [], [], []⟩
    let padded : Request := ⟨"PUT", "/users/007\n".toList, ['x'], [], []⟩
    (Route.ofPath? marked.path = some ⟨.userBySagaId, .text "a?b".toList⟩
        ∧ Url.pathOf (address marked.path marked.query) = .ok "/users_by_saga_id/a%3Fb".toList
        ∧ routeOf? marked.path = some ⟨.userBySagaId, .text "a%3Fb".toList⟩
        ∧ routeOf? marked.path ≠ Route.ofPath? marked.path)
      ∧ (Route.ofPath? tabbed.path = none ∧ routeOf? tabbed.path = some ⟨.healthcheck, .absent⟩
        ∧ ∀ w, answer setup tabbed w = (⟨200, .json (.text "Ok"), none⟩, w))
      ∧ routeOf? padded.path = Route.ofPath? padded.path := by
  intro setup marked tabbed padded
  obtain ⟨hmarked, -, hown, -⟩ := routed_by_address setup marked (by decide)
  obtain ⟨htabbed, -, -, -⟩ := routed_by_address setup tabbed (by decide)
  obtain ⟨-, -, hpadded, -⟩ := routed_by_address setup padded (by decide)
  obtain ⟨haddress, hescaped, -⟩ := hmarked rfl
  obtain ⟨-, hrouted, hanswer⟩ := htabbed rfl
  refine ⟨⟨rfl, haddress.trans rfl, hescaped.trans rfl, fun heq => ?_⟩,
    ⟨rfl, hrouted.trans rfl, fun w => (hanswer w).trans rfl⟩, hpadded.mpr ⟨?_, ?_⟩⟩
  · exact (hown.mp heq).1 _ _ rfl rfl '?' (by decide) (by decide)
  · have hroute : Route.ofPath? padded.path = some ⟨.user, .id 7⟩ := rfl
    intro route name hfound hparam
    rw [hroute] at hfound
    obtain rfl := Option.some.inj hfound
    cases hparam
  · exact nofun

end Accounts.Api
