/-!
# Permissions

What may be protected and how permissions are granted. A permission lets an action be done to a
resource, on every target or only on targets that the acting user owns. Roles hold permissions; a
user may do what one permission of one of the roles allows on all the targets together.
-/

namespace Accounts

/-- A protected class of entities. -/
inductive Resource where
  | users
  | userRoles
  deriving DecidableEq, Repr

/-- A kind of operation; `all` stands for any. -/
inductive Action where
  | all
  | read
  | create
  | update
  | delete
  deriving DecidableEq, Repr

/-- Which targets a permission reaches. -/
inductive Scope where
  | all
  | owned
  deriving DecidableEq, Repr

inductive Role where
  | superuser
  | user
  deriving DecidableEq, Repr

namespace Resource

def name : Resource → String
  | users => "users"
  | userRoles => "user_roles"

def ofName? (text : String) : Option Resource := [users, userRoles].find? (·.name == text)

end Resource

namespace Action

def name : Action → String
  | all => "all"
  | read => "read"
  | create => "create"
  | update => "update"
  | delete => "delete"

def ofName? (text : String) : Option Action :=
  [all, read, create, update, delete].find? (·.name == text)

end Action

namespace Scope

def name : Scope → String
  | all => "all"
  | owned => "owned"

def ofName? (text : String) : Option Scope := [all, owned].find? (·.name == text)

end Scope

namespace Role

def name : Role → String
  | superuser => "superuser"
  | user => "user"

def ofName? (text : String) : Option Role := [superuser, user].find? (·.name == text)

end Role

/-- What an action is aimed at: a user, a role grant of a user, or something known only by its
owner. -/
inductive Target where
  | user (id : Int)
  | userRole (userId : Int)
  | ownedBy (id : Int)
  deriving DecidableEq, Repr

/-- The user who owns a target. Users own themselves. -/
def Target.owner : Target → Int
  | user id => id
  | userRole userId => userId
  | ownedBy id => id

/-- Whether a scope of the acting user reaches a target. -/
def Scope.reaches (scope : Scope) (userId : Int) (target : Target) : Bool :=
  match scope with
  | .all => true
  | .owned => target.owner == userId

structure Permission where
  resource : Resource
  action : Action
  scope : Scope
  deriving DecidableEq, Repr

namespace Permission

/-- The permission is about this resource and this action, or any action. -/
def allows (p : Permission) (resource : Resource) (action : Action) : Bool :=
  p.resource == resource && (p.action == action || p.action == .all)

end Permission

/-- The permissions of each role; a role that is not listed has none. -/
abbrev PermissionTable := List (Role × List Permission)

namespace PermissionTable

def ofRole (table : PermissionTable) (role : Role) : List Permission :=
  match table.find? (·.1 == role) with
  | some (_, permissions) => permissions
  | none => []

def ofRoles (table : PermissionTable) (roles : List Role) : List Permission :=
  roles.flatMap table.ofRole

/-- Whether a user with these roles may do an action to a resource on all the targets. -/
def permits (table : PermissionTable) (roles : List Role) (userId : Int) (resource : Resource)
    (action : Action) (targets : List Target) : Bool :=
  (table.ofRoles roles).any fun p =>
    p.allows resource action && targets.all (p.scope.reaches userId)

/-- The permissions of the application. Superusers may do everything; users may read all users, do
everything to themselves, and read their own roles. -/
def application : PermissionTable :=
  [(.superuser, [⟨.users, .all, .all⟩, ⟨.userRoles, .all, .all⟩]),
    (.user, [⟨.users, .read, .all⟩, ⟨.users, .all, .owned⟩, ⟨.userRoles, .read, .owned⟩])]

end PermissionTable

end Accounts
