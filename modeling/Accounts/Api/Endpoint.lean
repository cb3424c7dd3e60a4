import Accounts.Route.Table

/-!
# Endpoints

What the service offers: a method together with a kind of route. Public endpoints do not look at the
caller's token, so that a stale one locks nobody out of them.
-/

namespace Accounts.Api

inductive Endpoint where
  | healthcheck
  | listUsers
  | createUser
  | currentUser
  | getUser
  | updateUser
  | deactivateUser
  | getUserBySagaId
  | revokeTokens
  | changePassword
  | requestPasswordReset
  | applyPasswordReset
  | requestEmailVerification
  | applyEmailVerification
  | jwtEmail
  | jwtGoogle
  | jwtFacebook
  | getOwnRoles
  | createRole
  | getRoles
  | deleteRole
  | createDefaultRole
  | deleteRoles
  deriving DecidableEq, Repr

namespace Endpoint

def of? (method : String) (kind : RouteKind) : Option Endpoint :=
  match kind, method with
  | .healthcheck, "GET" => some healthcheck
  | .users, "GET" => some listUsers
  | .users, "POST" => some createUser
  | .current, "GET" => some currentUser
  | .user, "GET" => some getUser
  | .user, "PUT" => some updateUser
  | .user, "DELETE" => some deactivateUser
  | .userBySagaId, "GET" => some getUserBySagaId
  | .revokeTokens, "POST" => some revokeTokens
  | .passwordChange, "PUT" => some changePassword
  | .passwordReset, "POST" => some requestPasswordReset
  | .passwordReset, "PUT" => some applyPasswordReset
  | .emailVerify, "POST" => some requestEmailVerification
  | .emailVerify, "PUT" => some applyEmailVerification
  | .jwtEmail, "POST" => some jwtEmail
  | .jwtGoogle, "POST" => some jwtGoogle
  | .jwtFacebook, "POST" => some jwtFacebook
  | .userRoles, "GET" => some getOwnRoles
  | .userRoles, "POST" => some createRole
  | .userRole, "GET" => some getRoles
  | .userRole, "DELETE" => some deleteRole
  | .defaultRole, "POST" => some createDefaultRole
  | .defaultRole, "DELETE" => some deleteRoles
  | _, _ => none

/-- Endpoints that are open to everybody. -/
def isPublic : Endpoint → Bool
  | healthcheck | createUser | jwtEmail | jwtGoogle | jwtFacebook | applyPasswordReset
  | applyEmailVerification => true
  | _ => false

end Endpoint

end Accounts.Api
