import Accounts.Error
import Accounts.Payload.Forms

/-!
# The store

Four tables: users by id, identities by e-mail and provider, role grants by id, and one-time tokens
by e-mail and type. Ids count up from 1 and are never used twice. Writes that would break a key are
refused and leave everything as it was.
-/

namespace Accounts

structure Store where
  users : Table Int User
  identities : Table (String × Provider) Identity
  userRoles : Table Int UserRole
  resetTokens : Table (String × TokenType) ResetToken
  nextUserId : Int
  nextRoleId : Int
  deriving Repr

namespace Store

def empty : Store := ⟨[], [], [], [], 1, 1⟩

/-! ## Users -/

def findUser (s : Store) (id : Int) : Option User := s.users.get? id

def findUserByEmail (s : Store) (email : String) : Option User :=
  s.users.values.find? (·.email == email)

/-- The user of what was given as an e-mail address. A string that is no text is nobody's. -/
def findUserByAddress (s : Store) (email : JsonString) : Option User :=
  email.text?.bind s.findUserByEmail

def findUserBySagaId (s : Store) (sagaId : JsonString) : Option User :=
  s.users.values.find? (·.sagaId == sagaId)

def emailExists (s : Store) (email : String) : Bool := s.users.values.any (·.email == email)

/-- The first `count` items; a negative count leaves as many out at the end. -/
def takeCount (count : Int) (items : List α) : List α :=
  match count with
  | .ofNat n => items.take n
  | .negSucc n => items.take (items.length - (n + 1))

/-- Users from an id on, in the order of their ids. -/
def listUsers (s : Store) (fromId count : Int) : List User :=
  let ids := (s.users.keys.filter (fromId ≤ ·)).mergeSort
  (takeCount count ids).filterMap s.users.get?

def userRow (id : Int) (now : Timestamp) (sagaId : JsonString) (p : NewUser) : User where
  id := id
  email := p.email
  emailVerified := some p.emailVerified
  phone := p.phone
  phoneVerified := false
  isActive := some true
  firstName := p.firstName
  lastName := p.lastName
  middleName := p.middleName
  gender := some p.gender
  birthdate := p.birthdate
  lastLoginAt := some now
  createdAt := now
  updatedAt := now
  sagaId := sagaId
  revokeBefore := now

/-- Inserts a user. Every e-mail address belongs to one user at most. -/
def createUser (s : Store) (now : Timestamp) (sagaId : JsonString) (p : NewUser) :
    Except ServiceError (User × Store) :=
  if s.emailExists p.email then .error (.store (.duplicateUser p.email))
  else
    let user := userRow s.nextUserId now sagaId p
    .ok (user, { s with users := s.users.put user.id user, nextUserId := s.nextUserId + 1 })

/-- Applies the fields that a change sets. -/
def applyUpdate (now : Timestamp) (p : UpdateUser) (u : User) : User :=
  { u with
    phone := p.phone.getD u.phone
    firstName := p.firstName.getD u.firstName
    lastName := p.lastName.getD u.lastName
    middleName := p.middleName.getD u.middleName
    gender := p.gender.getD u.gender
    birthdate := p.birthdate.getD u.birthdate
    isActive := p.isActive.getD u.isActive
    emailVerified := p.emailVerified.getD u.emailVerified
    lastLoginAt := p.lastLoginAt.getD u.lastLoginAt
    updatedAt := now }

def modifyUser (s : Store) (id : Int) (f : User → User) : Except ServiceError (User × Store) :=
  match s.findUser id with
  | none => .error (.missing (.user id))
  | some user => .ok (f user, { s with users := s.users.put id (f user) })

def updateUser (s : Store) (now : Timestamp) (id : Int) (p : UpdateUser) :
    Except ServiceError (User × Store) :=
  s.modifyUser id (applyUpdate now p)

/-- Marks the session tokens from before a time as revoked. -/
def revokeTokens (s : Store) (now : Timestamp) (id : Int) (before : Timestamp) :
    Except ServiceError (User × Store) :=
  s.modifyUser id fun user => { user with revokeBefore := before, updatedAt := now }

/-! ## Identities -/

def findIdentity (s : Store) (email : String) (provider : Provider) : Option Identity :=
  s.identities.get? (email, provider)

def identityExists (s : Store) (email : String) (provider : Provider) : Bool :=
  s.identities.has (email, provider)

def identitiesOf (s : Store) (userId : Int) : List Identity :=
  s.identities.values.filter (·.userId == userId)

/-- Inserts an identity. There is one at most for an e-mail address and a provider. -/
def createIdentity (s : Store) (identity : Identity) : Except ServiceError (Identity × Store) :=
  if s.identityExists identity.email identity.provider then
    .error (.store (.duplicateIdentity identity.email identity.provider))
  else
    .ok (identity,
      { s with identities := s.identities.put (identity.email, identity.provider) identity })

def updatePassword (s : Store) (email : String) (provider : Provider) (password : String) :
    Except ServiceError (Identity × Store) :=
  match s.findIdentity email provider with
  | none => .error (.missing (.identity provider email))
  | some identity =>
    let identity := { identity with password := some password }
    .ok (identity, { s with identities := s.identities.put (email, provider) identity })

/-- Moves an identity to another provider. It stands last in the table then. -/
def updateProvider (s : Store) (email : String) (old new : Provider) :
    Except ServiceError (Identity × Store) :=
  if s.identityExists email new then .error (.store (.duplicateIdentity email new))
  else match s.findIdentity email old with
    | none => .error (.missing (.identity old email))
    | some identity =>
      let identity := { identity with provider := new }
      .ok (identity,
        { s with identities := (s.identities.erase (email, old)).put (email, new) identity })

/-! ## Role grants -/

def rolesOf (s : Store) (userId : Int) : List UserRole :=
  s.userRoles.values.filter (·.userId == userId)

def findRole (s : Store) (id : Int) : Option UserRole := s.userRoles.get? id

def createRole (s : Store) (now : Timestamp) (p : NewUserRole) : UserRole × Store :=
  let role : UserRole := ⟨s.nextRoleId, p.userId, p.role, now⟩
  (role, { s with userRoles := s.userRoles.put role.id role, nextRoleId := s.nextRoleId + 1 })

def deleteRole (s : Store) (id : Int) : Except ServiceError (UserRole × Store) :=
  match s.findRole id with
  | none => .error (.missing (.role id))
  | some role => .ok (role, { s with userRoles := s.userRoles.erase id })

def deleteRolesOf (s : Store) (userId : Int) : List UserRole × Store :=
  (s.rolesOf userId, { s with userRoles := s.userRoles.filter (·.2.userId != userId) })

/-! ## One-time tokens -/

/-- Issues a token in place of the one before. -/
def issueToken (s : Store) (now : Timestamp) (email : String) (tokenType : TokenType)
    (token : String) : ResetToken × Store :=
  let row : ResetToken := ⟨token, email, tokenType, now⟩
  (row, { s with resetTokens := s.resetTokens.put (email, tokenType) row })

def findToken (s : Store) (token : String) (tokenType : TokenType) : Option ResetToken :=
  s.resetTokens.values.find? fun row => row.token == token && row.tokenType == tokenType

def takeToken (s : Store) (token : String) (tokenType : TokenType) : Option ResetToken × Store :=
  match s.findToken token tokenType with
  | none => (none, s)
  | some row => (some row, { s with resetTokens := s.resetTokens.erase (row.email, tokenType) })

end Store

end Accounts
