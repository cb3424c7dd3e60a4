import Accounts.Service.Users

/-!
# Credentials

Changing passwords and verifying e-mail addresses. Both resetting a password and verifying an
address go through a one-time token: asking for one takes the right to update the user, using one
takes the token alone. A token that was presented is gone, whether it was still good or not.
-/

namespace Accounts.Credentials

open Op Users
open Text (codesOf)

/-- How long a one-time token is good, in microseconds. -/
abbrev Lifetime := Int

/-- The longest span of time that can be computed with: a billion days. -/
def maxLifetime : Int := 1000000000 * Timestamp.microsPerDay - 1

def minLifetime : Int := -999999999 * Timestamp.microsPerDay

/-- A lifetime in microseconds, unless it is out of all bounds. -/
def lifetime (micros : Int) : Op Lifetime :=
  if minLifetime ≤ micros ∧ micros ≤ maxLifetime then pure micros else crash .overflow

def isPassword (stored : Option String) (password : String) : Op Bool :=
  ofResult (Password.verify (stored.map (codesOf ·.toList)) (codesOf password.toList))

/-- Stores a new password and revokes the session tokens from before. -/
def replacePassword (email : String) (userId : Int) (password : String) : Op User := do
  let stored ← hashNew password
  let _ ← write (·.updatePassword email .email stored)
  let now ← now
  write (·.revokeTokens now userId now)

def changePassword (caller : Caller) (payload : ChangeIdentityPassword) : Op User := do
  match caller.userId with
  | none => fail (.unauthenticated .required)
  | some userId => withSlot do
    let user ← found .callersUser (← read (·.findUser userId))
    require caller .users .update (targetOf user)
    match ← read (·.findIdentity user.email .email) with
    | none => fail (.missing .ownCredentials)
    | some identity =>
      if !(← isPassword identity.password payload.oldPassword) then
        fail (.field "old_password" "Password is incorrect")
      replacePassword user.email user.id payload.newPassword

/-- Checks the right to update the user of an e-mail address. -/
def requireUpdate (caller : Caller) (email : String) : Op Unit := do
  require caller .users .update []
  let user ← found .owner (← read (·.findUserByEmail email))
  require caller .users .update (targetOf user)

/-- Issues a one-time token for an e-mail address that has an identity of a provider. -/
def request (caller : Caller) (payload : ResetRequest) (provider : Provider) (tokenType : TokenType)
    (refusal : String) : Op ResetToken := withSlot do
  requireUpdate caller payload.email
  if !(← read (·.identityExists payload.email provider)) then fail (.field "email" refusal)
  let token ← freshToken
  let now ← now
  put (·.issueToken now payload.email tokenType token)

def requestPasswordReset (caller : Caller) (payload : ResetRequest) : Op ResetToken :=
  request caller payload .email .passwordReset "Email is not verified"

def requestEmailVerification (caller : Caller) (payload : ResetRequest) : Op ResetToken :=
  request caller payload .unverifiedEmail .emailVerify "Email is already verified"

def invalidToken : ServiceError := .field "token" "Token is invalid or expired"

/-- Takes a one-time token out of the store; it has to be there and not expired. -/
def useToken (life : Lifetime) (token : String) (tokenType : TokenType) : Op ResetToken := do
  match ← put (·.takeToken token tokenType) with
  | none => fail invalidToken
  | some row =>
    let expiry := row.createdAt.reading + life
    if !Timestamp.inRange expiry then crash .overflow
    if expiry < (← now).reading then fail invalidToken
    return row

def applyPasswordReset (life : Lifetime) (payload : ResetApply) : Op User := withSlot do
  let row ← useToken life payload.token .passwordReset
  let user ← found .owner (← read (·.findUserByEmail row.email))
  replacePassword row.email user.id payload.password

/-- Verifies an e-mail address with a one-time token: its identity can log in from now on. -/
def applyEmailVerification (life : Lifetime) (payload : EmailVerifyApply) : Op User := withSlot do
  let row ← useToken life payload.token .emailVerify
  let user ← found .owner (← read (·.findUserByEmail row.email))
  let _ ← write (·.updateProvider row.email .unverifiedEmail .email)
  let now ← now
  write (·.updateUser now user.id { UpdateUser.nothing with emailVerified := some (some true) })

end Accounts.Credentials
