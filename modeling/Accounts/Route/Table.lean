import Accounts.Route.Rules
import Accounts.Text.IntegerText

/-!
# The routes of the application

Fifteen kinds of routes, some with a parameter: a numeric id, which is at most 2³¹ − 1, or a text.
`Route.table` is the list of their rules and `Route.ofPath?` what a path resolves to.
-/

namespace Accounts

inductive RouteKind where
  | healthcheck
  | users
  | user
  | userBySagaId
  | current
  | revokeTokens
  | passwordChange
  | passwordReset
  | emailVerify
  | jwtEmail
  | jwtGoogle
  | jwtFacebook
  | userRoles
  | userRole
  | defaultRole
  deriving DecidableEq, Repr

namespace RouteKind

def name : RouteKind → String
  | healthcheck => "healthcheck"
  | users => "users"
  | user => "user"
  | userBySagaId => "user_by_saga_id"
  | current => "current"
  | revokeTokens => "revoke_tokens"
  | passwordChange => "password_change"
  | passwordReset => "password_reset"
  | emailVerify => "email_verify"
  | jwtEmail => "jwt_email"
  | jwtGoogle => "jwt_google"
  | jwtFacebook => "jwt_facebook"
  | userRoles => "user_roles"
  | userRole => "user_role"
  | defaultRole => "default_role"

def all : List RouteKind :=
  [healthcheck, users, user, userBySagaId, current, revokeTokens, passwordChange, passwordReset,
    emailVerify, jwtEmail, jwtGoogle, jwtFacebook, userRoles, userRole, defaultRole]

def ofName? (text : String) : Option RouteKind := all.find? (·.name == text)

end RouteKind

inductive RouteParam where
  | absent
  | id (value : Nat)
  | text (value : List Char)
  deriving DecidableEq, Repr

/-- A route: what is asked for, and about what. -/
structure Route where
  kind : RouteKind
  param : RouteParam
  deriving DecidableEq, Repr

namespace Route

/-- Ids are stored in 31 bits and a sign. -/
def maxId : Nat := Nat.pow 2 31 - 1

/-- The id that a text stands for. -/
def id? (text : List Char) : Option Nat :=
  match Text.IntegerText.parse? text with
  | some (.ofNat n) => if n ≤ maxId then some n else none
  | _ => none

/-- The route with the id that the first group holds. -/
def withId (kind : RouteKind) (groups : List (List Char)) : Extraction Route :=
  match groups with
  | [] => .rejected
  | group :: _ =>
    match id? group with
    | some id => .route ⟨kind, .id id⟩
    | none => .rejected

def withText (kind : RouteKind) (groups : List (List Char)) : Extraction Route :=
  match groups with
  | [] => .rejected
  | group :: _ => .route ⟨kind, .text group⟩

/-- The pattern of paths that consist of the given parts in a row. -/
def whole (parts : List Pattern) : Pattern := .seq .start (.row (parts ++ [.stop]))

/-- A group of one or more decimal digits. -/
def digits : Pattern := .group 0 (.some1 (.one false [.digit]))

/-- A group of one or more characters other than slashes. -/
def segment : Pattern := .group 0 (.some1 (.one true [.range '/' '/']))

/-- The rule of a route without a parameter. -/
def fixed (path : String) (kind : RouteKind) : Rule Route :=
  .constant (whole [.literal path.toList]) 0 ⟨kind, .absent⟩

/-- The rule of a route with an id between two texts. -/
def numbered (front back : String) (kind : RouteKind) : Rule Route :=
  ⟨whole [.literal front.toList, digits, .literal back.toList], 1, withId kind⟩

def table : Rules Route :=
  [fixed "/healthcheck" .healthcheck,
    fixed "/users" .users,
    fixed "/users/current" .current,
    fixed "/users/password_change" .passwordChange,
    fixed "/users/password_reset_token" .passwordReset,
    fixed "/users/email_verify_token" .emailVerify,
    fixed "/jwt/email" .jwtEmail,
    fixed "/jwt/google" .jwtGoogle,
    fixed "/jwt/facebook" .jwtFacebook,
    numbered "/users/" "" .user,
    numbered "/users/" "/revoke_tokens" .revokeTokens,
    ⟨whole [.literal "/users_by_saga_id/".toList, segment], 1, withText .userBySagaId⟩,
    fixed "/user_roles" .userRoles,
    numbered "/user_roles/" "" .userRole,
    numbered "/roles/default/" "" .defaultRole]

/-- The route that a path resolves to. -/
def ofPath? (path : List Char) : Option Route := table.resolve? path

end Route

end Accounts
