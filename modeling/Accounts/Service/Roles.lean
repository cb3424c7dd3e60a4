import Accounts.World

/-!
# Role grants

Granting and revoking roles. Every write to the store is a function of its own, followed by
forgetting the cached roles of the user concerned, so that the next check of a right reads the
store.
-/

namespace Accounts.Roles

open Op

/-- The role that everybody gets. -/
def defaultRole : Role := .user

def list (caller : Caller) (userId : Int) : Op (List UserRole) := do
  require caller .userRoles .read [.ownedBy userId]
  withSlot (read (·.rolesOf userId))

def grant (payload : NewUserRole) : Op UserRole := do
  let now ← now
  withSlot (put (·.createRole now payload))

def create (caller : Caller) (payload : NewUserRole) : Op UserRole := do
  require caller .userRoles .create [.ownedBy payload.userId]
  let role ← grant payload
  invalidateRoles payload.userId
  return role

def createDefault (caller : Caller) (userId : Int) : Op UserRole :=
  create caller ⟨userId, defaultRole⟩

/-- Revokes a grant by the right to the grants of the user who has it. -/
def revoke (caller : Caller) (id : Int) : Op UserRole := withSlot do
  match ← read (·.findRole id) with
  | none => fail (.missing (.grant id))
  | some role =>
    require caller .userRoles .delete [.userRole role.userId]
    write (·.deleteRole id)

def delete (caller : Caller) (id : Int) : Op UserRole := do
  let role ← revoke caller id
  invalidateRoles role.userId
  return role

def revokeAll (userId : Int) : Op (List UserRole) := withSlot (put (·.deleteRolesOf userId))

def deleteAll (caller : Caller) (userId : Int) : Op (List UserRole) := do
  require caller .userRoles .delete [.ownedBy userId]
  let roles ← revokeAll userId
  invalidateRoles userId
  return roles

end Accounts.Roles
