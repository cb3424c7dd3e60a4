import Accounts.Password
import Accounts.World

/-!
# Users

Reading and changing user profiles. Reads ask for the right to read users, writes for the right to
update or delete them, before the store is touched, and again with the user concerned as the target.
So a caller without rights cannot tell an id that exists from one that does not. Signing up is open
to everybody.
-/

namespace Accounts.Users

open Op
open Text (codesOf)

/-- The greatest number of users on a page. -/
def maxCount : Int := 50

def targetOf (user : User) : List Target := [.user user.id]

/-- The user that was looked for, or what is missing. -/
def found (what : Missing) : Option User → Op User
  | some user => pure user
  | none => fail (.missing what)

/-- Looks a user up in a slot of its own and checks that the caller may read it. -/
def readable (caller : Caller) (what : Missing) (look : Store → Option User) : Op User := do
  let user ← found what (← withSlot (read look))
  require caller .users .read (targetOf user)
  return user

def get (caller : Caller) (id : Int) : Op User := do
  require caller .users .read []
  readable caller (.user id) (·.findUser id)

/-- The caller's own user. -/
def current (caller : Caller) : Op User := do
  match caller.email with
  | none => fail (.unauthenticated .noEmail)
  | some email =>
    if email = .text "" then fail (.unauthenticated .noEmail)
    else readable caller .callersUser (·.findUserByAddress email)

def findBySagaId (caller : Caller) (sagaId : JsonString) : Op User := do
  require caller .users .read []
  readable caller (.userWithSagaId sagaId) (·.findUserBySagaId sagaId)

/-- What is wrong with the bounds of a page. -/
def pageComplaints (fromId count : Int) : Table String (List String) :=
  (if fromId < 1 then [("from", [s!"Must be positive, got {fromId}"])] else []) ++
    (if 0 < count ∧ count ≤ maxCount then []
      else [("count", [s!"Must be between 1 and {maxCount}, got {count}"])])

/-- A page of users from an id on. -/
def list (caller : Caller) (fromId count : Int) : Op (List User) := do
  let complaints := pageComplaints fromId count
  if !complaints.isEmpty then fail (.invalid complaints)
  require caller .users .read []
  withSlot (read (·.listUsers fromId count))

/-- The stored form of a new password. -/
def hashNew (password : String) : Op String := do
  let salt := Password.saltOf (← freshRandom)
  ofResult ((Password.hash (codesOf password.toList) (codesOf salt)).mapError .crash)

/-- Checks a user that the service is about to create. -/
def checkedUser (p : NewUser) : Op NewUser :=
  match p.checked with
  | .ok p => pure p
  | .bad _ => crash (.value p.refusal)

/-- Makes a user with an e-mail address that is to be verified and the role that everybody has. -/
def enroll (payload : NewIdentity) : Op User := do
  let sagaId ← sagaIdOr payload.sagaId
  withSlot do
    if ← read (·.emailExists payload.email) then fail (.field "email" "Email already exists")
    let newUser ← checkedUser (.bare payload.email (some sagaId))
    let now ← now
    let user ← write (·.createUser now sagaId newUser)
    let password ← hashNew payload.password
    let _ ← write
      (·.createIdentity ⟨user.id, payload.email, some password, .unverifiedEmail, sagaId⟩)
    let _ ← put (·.createRole now ⟨user.id, .user⟩)
    return user

/-- Signs a user up. -/
def create (payload : NewIdentity) : Op User := do
  let user ← enroll payload
  invalidateRoles user.id
  return user

/-- Changes a user after both checks of the right to. -/
def change (caller : Caller) (action : Action) (id : Int)
    (f : Store → Except ServiceError (User × Store)) : Op User := do
  require caller .users action []
  withSlot do
    let user ← found (.user id) (← read (·.findUser id))
    require caller .users action (targetOf user)
    write f

def update (caller : Caller) (id : Int) (payload : UpdateProfile) : Op User := do
  let now ← now
  change caller .update id (·.updateUser now id payload.toUpdateUser)

def deactivate (caller : Caller) (id : Int) : Op User := do
  let now ← now
  change caller .delete id
    (·.updateUser now id { UpdateUser.nothing with isActive := some (some false) })

/-- Revokes the session tokens of a user up to now. -/
def revokeTokens (caller : Caller) (id : Int) : Op User := do
  let now ← now
  change caller .update id (·.revokeTokens now id now)

end Accounts.Users
