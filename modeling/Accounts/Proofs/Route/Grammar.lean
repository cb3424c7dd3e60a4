import Accounts.Proofs.Route.Rules
import Accounts.Proofs.Route.Shape

/-!
# The grammar of routes

The paths of a kind of route have one shape. `Route.Denotes` says what a path stands for, by the
shapes alone, and `Route.ofPath?_eq_some_iff` that this is what the rules find. No path stands for
two routes, so the order in which the rules are tried does not matter.
-/

namespace Accounts

open Pattern (IsLine)
open Text (isDigit numeralValue)

/-- What the paths of a kind of route look like. -/
def RouteKind.shape : RouteKind → Shape
  | healthcheck => .fixed "/healthcheck"
  | users => .fixed "/users"
  | user => .numbered "/users/" ""
  | userBySagaId => .named "/users_by_saga_id/"
  | current => .fixed "/users/current"
  | revokeTokens => .numbered "/users/" "/revoke_tokens"
  | passwordChange => .fixed "/users/password_change"
  | passwordReset => .fixed "/users/password_reset_token"
  | emailVerify => .fixed "/users/email_verify_token"
  | jwtEmail => .fixed "/jwt/email"
  | jwtGoogle => .fixed "/jwt/google"
  | jwtFacebook => .fixed "/jwt/facebook"
  | userRoles => .fixed "/user_roles"
  | userRole => .numbered "/user_roles/" ""
  | defaultRole => .numbered "/roles/default/" ""

namespace Route

/-- What a path stands for. -/
def Denotes (path : List Char) (route : Route) : Prop := route.kind.shape.Reads path route.param

/-! ## One rule for each kind -/

/-- The rule for paths of a shape. -/
def ruleOf (kind : RouteKind) : Shape → Rule Route
  | .fixed path => fixed path kind
  | .numbered front back => numbered front back kind
  | .named front => ⟨whole [.literal front.toList, segment], 1, withText kind⟩

/-- The kinds of routes, in the order of their rules. -/
def kinds : List RouteKind :=
  [.healthcheck, .users, .current, .passwordChange, .passwordReset, .emailVerify, .jwtEmail,
    .jwtGoogle, .jwtFacebook, .user, .revokeTokens, .userBySagaId, .userRoles, .userRole,
    .defaultRole]

theorem table_eq : table = kinds.map fun kind => ruleOf kind kind.shape := rfl

theorem plain_shape (kind : RouteKind) : kind.shape.Plain := by
  cases kind <;> decide

theorem mem_kinds (kind : RouteKind) : kind ∈ kinds := by cases kind <;> decide

/-! ## Fixed paths -/

variable {kind : RouteKind} {route : Route} {path : List Char}

theorem captures?_fixed {text : String} {groups : List (List Char)} :
    (whole [.literal text.toList]).captures? 0 path = some groups ↔
      groups = [] ∧ IsLine text.toList path := by
  rw [show (whole [.literal text.toList]).captures? 0 path = _ from
    Pattern.captures?_of_closes (Pattern.closes_literal text.toList) path]
  by_cases h : IsLine text.toList path
  · rw [if_pos h]
    exact ⟨fun heq => ⟨(Option.some.inj heq).symm, h⟩, fun heq => by rw [heq.1]⟩
  · rw [if_neg h]
    exact ⟨nofun, fun heq => absurd heq.2 h⟩

theorem apply_fixed {text : String} :
    (fixed text kind).apply path = .route route ↔
      route.kind = kind ∧ (Shape.fixed text).Reads path route.param := by
  rw [Rule.apply_eq_route_iff]
  constructor
  · rintro ⟨groups, hcaptures, hroute⟩
    cases hroute
    exact ⟨rfl, .fixed (captures?_fixed.mp hcaptures).2⟩
  · rintro ⟨rfl, hreads⟩
    obtain ⟨kind, param⟩ := route
    cases hreads with
    | fixed hpath => exact ⟨[], captures?_fixed.mpr ⟨rfl, hpath⟩, rfl⟩

/-! ## Numbers -/

/-- A number is an id within the bounds of ids, unless it is written with too many digits. -/
theorem id?_digits {digits : List Char} (hne : digits ≠ [])
    (hdigits : ∀ c ∈ digits, isDigit c = true) :
    id? digits = if digits.length ≤ 4300 ∧ numeralValue digits ≤ 2 ^ 31 - 1 then
      some (numeralValue digits) else none := by
  unfold id?
  rw [Text.parse?_digits hne hdigits]
  by_cases hlength : digits.length ≤ Text.IntegerText.maxDigits
  · have hlength' : digits.length ≤ 4300 := hlength
    rw [if_pos hlength]
    simp only [hlength', true_and]
    rfl
  · rw [if_neg hlength, if_neg fun h => hlength h.1]

theorem admits_digit (c : Char) : Pattern.admits false [.digit] c = isDigit c := by
  simp [Pattern.admits, CharItem.contains]

theorem captures?_numbered {front back : String} {groups : List (List Char)}
    (hback : (back.toList ++ ['\n']).head?.any isDigit = false) :
    (whole [.literal front.toList, digits, .literal back.toList]).captures? 1 path = some groups ↔
      ∃ digits ≠ [], (∀ c ∈ digits, isDigit c = true) ∧ groups = [digits]
        ∧ IsLine (front.toList ++ (digits ++ back.toList)) path := by
  -- no digits of the run can begin what closes the line
  have hends : ∀ inner ≠ [], ∀ rest, (∀ c ∈ inner, Pattern.admits false [.digit] c = true) →
      IsLine back.toList (inner ++ rest) → IsLine back.toList rest := by
    intro inner hne rest hinner hline
    obtain ⟨c, inner, rfl⟩ := List.exists_cons_of_ne_nil hne
    have hc := hinner c List.mem_cons_self
    rw [admits_digit] at hc
    exact absurd hc (Shape.not_isDigit_of_head (Shape.any_head_of_isLine hback hline) rfl)
  rw [show whole [.literal front.toList, digits, .literal back.toList]
    = Pattern.around front.toList false [.digit] (.seq (.literal back.toList) (.seq .stop .empty))
      from rfl,
    Pattern.captures?_around_eq_some_iff (Pattern.closes_literal back.toList) hends]
  simp only [admits_digit]
  constructor
  · rintro ⟨run, rest, rfl, hne, hrun, -, hline, rfl⟩
    exact ⟨run, hne, hrun, rfl,
      Pattern.isLine_append_iff.mpr (Pattern.isLine_append_iff.mpr hline)⟩
  · rintro ⟨digits, hne, hdigits, rfl, hline⟩
    obtain ⟨rest, rfl, hrest, hhead⟩ := Shape.exists_rest_of_isLine hback hline
    exact ⟨digits, rest, rfl, hne, hdigits, fun _ => Shape.not_isDigit_of_head hhead, hrest, rfl⟩

theorem withId_singleton {group : List Char} :
    withId kind [group] = .route route ↔ ∃ id, id? group = some id ∧ route = ⟨kind, .id id⟩ := by
  unfold withId
  dsimp only
  cases id? group with
  | none => simp
  | some id => simp [eq_comm]

theorem apply_numbered {front back : String}
    (hback : (back.toList ++ ['\n']).head?.any isDigit = false) :
    (numbered front back kind).apply path = .route route ↔
      route.kind = kind ∧ (Shape.numbered front back).Reads path route.param := by
  rw [Rule.apply_eq_route_iff]
  constructor
  · rintro ⟨groups, hcaptures, hroute⟩
    obtain ⟨digits, hne, hdigits, rfl, hline⟩ := (captures?_numbered hback).mp hcaptures
    obtain ⟨id, hid, rfl⟩ := withId_singleton.mp hroute
    rw [id?_digits hne hdigits] at hid
    by_cases hbounds : digits.length ≤ 4300 ∧ numeralValue digits ≤ 2 ^ 31 - 1
    · rw [if_pos hbounds] at hid
      cases hid
      exact ⟨rfl, .numbered hne hdigits hbounds.1 hbounds.2 hline⟩
    · rw [if_neg hbounds] at hid
      cases hid
  · rintro ⟨rfl, hreads⟩
    obtain ⟨kind, param⟩ := route
    cases hreads with
    | @numbered _ _ digits _ hne hdigits hlength hvalue hpath =>
        refine ⟨[digits], (captures?_numbered hback).mpr ⟨digits, hne, hdigits, rfl, hpath⟩,
          withId_singleton.mpr ⟨_, ?_, rfl⟩⟩
        rw [id?_digits hne hdigits, if_pos ⟨hlength, hvalue⟩]

/-! ## Names -/

theorem admits_segment (c : Char) : Pattern.admits true [.range '/' '/'] c = true ↔ c ≠ '/' := by
  rw [Pattern.admits, List.any_cons, List.any_nil, Bool.or_false, Pattern.contains_range_self,
    bne_iff_ne, Ne, Bool.not_eq_true, beq_eq_false_iff_ne]
  exact ne_comm

theorem captures?_named {front : String} {groups : List (List Char)} :
    (whole [.literal front.toList, segment]).captures? 1 path = some groups ↔
      ∃ name ≠ [], '/' ∉ name ∧ groups = [name] ∧ path = front.toList ++ name := by
  have hends : ∀ inner ≠ [], ∀ rest,
      (∀ c ∈ inner, Pattern.admits true [.range '/' '/'] c = true) →
      IsLine [] (inner ++ rest) → IsLine [] rest := by
    intro inner hne rest _ hline
    obtain ⟨c, inner, rfl⟩ := List.exists_cons_of_ne_nil hne
    rcases hline with hline | hline
    · cases hline
    · exact Or.inl (List.append_eq_nil_iff.mp (List.cons.inj hline).2).2
  rw [show whole [.literal front.toList, segment]
    = Pattern.around front.toList true [.range '/' '/'] (.seq .stop .empty) from rfl,
    Pattern.captures?_around_eq_some_iff Pattern.closes_stop hends]
  simp only [admits_segment]
  constructor
  · rintro ⟨run, rest, rfl, hne, hrun, hrest, hline, rfl⟩
    -- a line feed would belong to the name
    obtain rfl : rest = [] := by
      rcases hline with rfl | rfl
      · rfl
      · exact absurd (by decide) (hrest '\n' rfl)
    exact ⟨run, hne, fun hmem => hrun '/' hmem rfl, rfl, by rw [List.append_nil]⟩
  · rintro ⟨name, hne, hname, rfl, rfl⟩
    refine ⟨name, [], rfl, hne, fun c hc heq => hname (heq ▸ hc), ?_, Or.inl rfl, ?_⟩
    · exact fun _ hc => nomatch hc
    · rw [List.append_nil]

theorem apply_named {front : String} :
    (ruleOf kind (.named front)).apply path = .route route ↔
      route.kind = kind ∧ (Shape.named front).Reads path route.param := by
  rw [Rule.apply_eq_route_iff]
  constructor
  · rintro ⟨groups, hcaptures, hroute⟩
    obtain ⟨name, hne, hname, rfl, rfl⟩ := captures?_named.mp hcaptures
    cases hroute
    exact ⟨rfl, .named hne hname⟩
  · rintro ⟨rfl, hreads⟩
    obtain ⟨kind, param⟩ := route
    cases hreads with
    | @named _ name hne hname =>
        exact ⟨[name], captures?_named.mpr ⟨name, hne, hname, rfl, rfl⟩, rfl⟩

/-- The rule of a kind finds the routes of the kind that a path stands for. -/
theorem apply_ruleOf :
    (ruleOf kind kind.shape).apply path = .route route ↔
      route.kind = kind ∧ Denotes path route := by
  have hdenotes : route.kind = kind ∧ Denotes path route ↔
      route.kind = kind ∧ kind.shape.Reads path route.param :=
    and_congr_right fun hkind => by rw [Denotes, hkind]
  rw [hdenotes]
  cases hshape : kind.shape with
  | fixed text => exact apply_fixed
  | numbered front back =>
      have hplain := plain_shape kind
      rw [hshape] at hplain
      exact apply_numbered hplain.2.1
  | named front => exact apply_named

/-! ## The route of a path -/

theorem apart_shapes {kind kind' : RouteKind} (h : kind ≠ kind') :
    kind.shape.Apart kind'.shape := by
  have hapart : ∀ kind ∈ kinds, ∀ kind' ∈ kinds, kind ≠ kind' → kind.shape.Apart kind'.shape := by
    decide
  exact hapart kind (mem_kinds kind) kind' (mem_kinds kind') h

/-- No path stands for two routes. -/
theorem Denotes.unique {route' : Route} (h : Denotes path route) (h' : Denotes path route') :
    route = route' := by
  obtain ⟨kind, param⟩ := route
  obtain ⟨kind', param'⟩ := route'
  by_cases hkind : kind = kind'
  · subst hkind
    have hparam : param = param' := Shape.Reads.unique (plain_shape kind) h h'
    rw [hparam]
  · exact ((apart_shapes hkind).not_reads (plain_shape kind) (plain_shape kind') h h').elim

/-- The groups that an extractor needs hold something. -/
theorem ruleOf_complete (kind : RouteKind) (path : List Char) :
    (ruleOf kind kind.shape).apply path ≠ .missingGroup := by
  have hextract : ∀ groups, (ruleOf kind kind.shape).extract groups ≠ .missingGroup := by
    intro groups
    cases kind.shape with
    | fixed text => exact nofun
    | numbered front back =>
        change withId kind groups ≠ _
        unfold withId
        split
        · exact nofun
        · split <;> exact nofun
    | named front =>
        change withText kind groups ≠ _
        unfold withText
        split <;> exact nofun
  unfold Rule.apply
  split
  · exact hextract _
  · exact nofun

theorem table_complete (path : List Char) : Rules.Complete table path := by
  intro rule hmem
  rw [table_eq, List.mem_map] at hmem
  obtain ⟨kind, -, rfl⟩ := hmem
  exact ruleOf_complete kind path

/-- No two rules take the same path. -/
theorem table_apart (path : List Char) : table.Pairwise (Rule.ApartAt path) := by
  have hkinds : kinds.Pairwise (· ≠ ·) := by decide
  rw [table_eq, List.pairwise_map]
  refine hkinds.imp fun {kind kind'} hne => ?_
  cases h : (ruleOf kind kind.shape).apply path with
  | rejected => exact Or.inl h
  | missingGroup => exact absurd h (ruleOf_complete kind path)
  | route found =>
      cases h' : (ruleOf kind' kind'.shape).apply path with
      | rejected => exact Or.inr h'
      | missingGroup => exact absurd h' (ruleOf_complete kind' path)
      | route found' =>
          obtain ⟨hkind, hdenotes⟩ := apply_ruleOf.mp h
          obtain ⟨hkind', hdenotes'⟩ := apply_ruleOf.mp h'
          rw [← hkind, ← hkind', hdenotes.unique hdenotes'] at hne
          exact absurd rfl hne

/-- The rules find what a path stands for. -/
theorem ofPath?_eq_some_iff : ofPath? path = some route ↔ Denotes path route := by
  have hrule : ∀ rule ∈ table, ∃ kind, rule = ruleOf kind kind.shape := by
    intro rule hmem
    rw [table_eq, List.mem_map] at hmem
    obtain ⟨kind, -, rfl⟩ := hmem
    exact ⟨kind, rfl⟩
  have hunique : ∀ rule ∈ table, ∀ other ∈ table, ∀ route route', rule.apply path = .route route →
      other.apply path = .route route' → route = route' := by
    intro rule hmem other hother route route' h h'
    obtain ⟨kind, rfl⟩ := hrule rule hmem
    obtain ⟨kind', rfl⟩ := hrule other hother
    exact (apply_ruleOf.mp h).2.unique (apply_ruleOf.mp h').2
  rw [ofPath?, Rules.resolve?_eq_some_iff (table_complete path) hunique]
  constructor
  · rintro ⟨rule, hmem, h⟩
    obtain ⟨kind, rfl⟩ := hrule rule hmem
    exact (apply_ruleOf.mp h).2
  · intro h
    refine ⟨ruleOf route.kind route.kind.shape, ?_, apply_ruleOf.mpr ⟨rfl, h⟩⟩
    rw [table_eq]
    exact List.mem_map_of_mem (mem_kinds route.kind)

/-- A line feed belongs to a name, and not to a number. -/
example : ofPath? "/users_by_saga_id/7\n".toList = some ⟨.userBySagaId, .text ['7', '\n']⟩
    ∧ ofPath? "/users/007\n".toList = some ⟨.user, .id 7⟩ := ⟨rfl, rfl⟩

/-- Each path has the meaning that its shape gives it and no other, and the path that is written for
a route is read as this route. -/
theorem route_grammar :
    (∀ path route, ofPath? path = some route ↔ Denotes path route)
      ∧ ∀ kind param, kind.shape.Takes param →
        ofPath? (kind.shape.write param) = some ⟨kind, param⟩ :=
  ⟨fun _ _ => ofPath?_eq_some_iff,
    fun _ _ htakes => ofPath?_eq_some_iff.mpr (Shape.reads_write htakes)⟩

theorem route_grammar_greatest_id :
    (RouteKind.revokeTokens.shape.Takes (.id 2147483647))
      ∧ ofPath? "/users/2147483647/revoke_tokens".toList = some ⟨.revokeTokens, .id 2147483647⟩ :=
  have htakes : 2147483647 ≤ 2 ^ 31 - 1 := by decide
  ⟨htakes, route_grammar.2 .revokeTokens (.id 2147483647) htakes⟩

end Route

end Accounts
