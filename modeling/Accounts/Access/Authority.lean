import Accounts.Access.Permission
import Accounts.Json.Basic

/-!
# Authority

On whose authority something is done: the system's own, which may do everything, nobody's, which may
do nothing, or a user's, which goes as far as the user's roles.
-/

namespace Accounts

inductive Authority where
  | system
  | nobody
  | user (id : Int)
  deriving DecidableEq, Repr

namespace Authority

def ofUser? : Option Int → Authority
  | some id => user id
  | none => nobody

/-- Whether the authority permits an action, given the roles of its user. -/
def permits (authority : Authority) (table : PermissionTable) (roles : List Role)
    (resource : Resource) (action : Action) (targets : List Target) : Bool :=
  match authority with
  | system => true
  | nobody => false
  | user id => table.permits roles id resource action targets

end Authority

/-- Who is calling: the user, if known, the e-mail that the call was made under, and the authority
of the call. -/
structure Caller where
  userId : Option Int
  email : Option JsonString
  authority : Authority
  deriving DecidableEq, Repr

namespace Caller

def anonymous : Caller := ⟨none, none, .nobody⟩

def system : Caller := ⟨none, none, .system⟩

def isAuthenticated (caller : Caller) : Bool := caller.userId.isSome

end Caller

end Accounts
