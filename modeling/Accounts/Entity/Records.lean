import Accounts.Access.Permission
import Accounts.Entity.Kinds
import Accounts.Json.Basic
import Accounts.Timestamp.Basic

/-!
# Records

The rows that are kept: users, identities, role grants and one-time tokens, and how each is shown.
-/

namespace Accounts

/-- A user's profile. The fields that an update may set to nothing are optional. -/
structure User where
  id : Int
  email : String
  emailVerified : Option Bool
  phone : Option JsonString
  phoneVerified : Bool
  isActive : Option Bool
  firstName : Option JsonString
  lastName : Option JsonString
  middleName : Option JsonString
  gender : Option Gender
  birthdate : Option Timestamp
  lastLoginAt : Option Timestamp
  createdAt : Timestamp
  updatedAt : Timestamp
  sagaId : JsonString
  /-- Session tokens from before this time count as revoked. -/
  revokeBefore : Timestamp
  deriving DecidableEq, Repr

/-- A credential that is linked to a user. The password is kept as its hash. -/
structure Identity where
  userId : Int
  email : String
  password : Option String
  provider : Provider
  sagaId : JsonString
  deriving DecidableEq, Repr

structure UserRole where
  id : Int
  userId : Int
  role : Role
  createdAt : Timestamp
  deriving DecidableEq, Repr

/-- A one-time token for an e-mail address. -/
structure ResetToken where
  token : String
  email : String
  tokenType : TokenType
  createdAt : Timestamp
  deriving DecidableEq, Repr

namespace Json

def optionalText : Option String → Json := ofOption text

def optionalString : Option JsonString → Json := ofOption str

def timestamp (t : Timestamp) : Json := text t.text

def optionalTimestamp : Option Timestamp → Json := ofOption timestamp

def optionalBool : Option Bool → Json := ofOption bool

end Json

def User.toJson (u : User) : Json := .record
  [("id", .int u.id), ("email", .text u.email), ("email_verified", .optionalBool u.emailVerified),
    ("phone", .optionalString u.phone), ("phone_verified", .bool u.phoneVerified),
    ("is_active", .optionalBool u.isActive), ("first_name", .optionalString u.firstName),
    ("last_name", .optionalString u.lastName), ("middle_name", .optionalString u.middleName),
    ("gender", .ofOption (fun g => .text g.name) u.gender),
    ("birthdate", .optionalTimestamp u.birthdate),
    ("last_login_at", .optionalTimestamp u.lastLoginAt), ("created_at", .timestamp u.createdAt),
    ("updated_at", .timestamp u.updatedAt), ("saga_id", .str u.sagaId),
    ("revoke_before", .timestamp u.revokeBefore)]

def Identity.toJson (i : Identity) : Json := .record
  [("user_id", .int i.userId), ("email", .text i.email), ("password", .optionalText i.password),
    ("provider", .text i.provider.name), ("saga_id", .str i.sagaId)]

def UserRole.toJson (r : UserRole) : Json := .record
  [("id", .int r.id), ("user_id", .int r.userId), ("role", .text r.role.name),
    ("created_at", .timestamp r.createdAt)]

def ResetToken.toJson (t : ResetToken) : Json := .record
  [("token", .text t.token), ("email", .text t.email), ("token_type", .text t.tokenType.name),
    ("created_at", .timestamp t.createdAt)]

end Accounts
