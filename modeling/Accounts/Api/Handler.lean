import Accounts.Api.Endpoint
import Accounts.Http.Message
import Accounts.Http.Query
import Accounts.Service.Roles
import Accounts.Service.SignIn

/-!
# Answering requests

From a request for an endpoint to the value of its answer: who is calling, what the body or the
query says, and the operation that is meant.
-/

namespace Accounts.Api

open Op Http

/-- What the service was set up with. -/
structure Setup where
  codec : SessionToken.Codec
  providers : SignIn.Providers
  /-- How deep the header and the payload of a token may be nested. -/
  tokenDepth : Json.Depth
  /-- How deep a body may be nested. -/
  bodyDepth : Json.Depth
  /-- Seconds for which one-time tokens are good. -/
  tokenSeconds : Int
  /-- The origins whose pages may talk to the service. -/
  origins : List String

/-- Why a body holds no payload. -/
inductive BodyProblem where
  | malformed
  | notObject
  deriving DecidableEq, Repr

def BodyProblem.text : BodyProblem → String
  | malformed => "Failed to parse request body"
  | notObject => "Request body must be a JSON object"

/-- The payload that the octets of a body hold. An empty body is like `null`. -/
def payloadOf (depth : Json.Depth) (check : Payload.Members → Payload.Checked α)
    (body : List UInt8) : Except Failure α :=
  let refuse (problem : BodyProblem) : Except Failure α :=
    .error (.service (.field "body" problem.text))
  if body.isEmpty then refuse .notObject
  else
    match Json.parseOctets depth body with
    | .error .malformed => refuse .malformed
    | .error .tooDeep => .error (.crash .tooDeep)
    | .ok (.obj members) =>
      match check members with
      | .ok payload => .ok payload
      | .bad complaints => .error (.service (.invalid (Payload.grouped complaints)))
    | .ok _ => refuse .notObject

def payload (setup : Setup) (request : Request) (check : Payload.Members → Payload.Checked α) :
    Op α :=
  ofResult (payloadOf setup.bodyDepth check request.body)

def queryNumber (request : Request) (name : String) : Op Int :=
  match queryInt request.query name with
  | .ok n => pure n
  | .error problem => fail (.field problem.field problem.text)

/-- The caller of a request. A token that does not hold is an error, no token is a caller without
rights. -/
def authenticate (setup : Setup) (request : Request) : Op Caller := do
  match request.bearer? with
  | none => resolveCaller none
  | some token =>
    let seconds := (← get).now / 1000000
    let email ← ofResult (setup.codec.decode setup.tokenDepth seconds token)
    resolveCaller (some email)

def Route.idOf (route : Route) : Int :=
  match route.param with
  | .id n => n
  | _ => 0

def Route.textOf (route : Route) : String :=
  match route.param with
  | .text cs => String.ofList cs
  | _ => ""

def tokenJson (token : String) : Json := .record [("token", .text token)]

def Endpoint.run (setup : Setup) (request : Request) (route : Route) (caller : Caller) :
    Endpoint → Op Json
  | healthcheck => pure (.text "Ok")
  | listUsers => do
    let fromId ← queryNumber request "from"
    let count ← queryNumber request "count"
    return .arr ((← Users.list caller fromId count).map User.toJson)
  | createUser => do
    return (← Users.create (← payload setup request NewIdentity.ofMembers)).toJson
  | currentUser => do return (← Users.current caller).toJson
  | getUser => do return (← Users.get caller (Route.idOf route)).toJson
  | updateUser => do
    let changes ← payload setup request UpdateProfile.ofMembers
    return (← Users.update caller (Route.idOf route) changes).toJson
  | deactivateUser => do return (← Users.deactivate caller (Route.idOf route)).toJson
  | getUserBySagaId => do return (← Users.findBySagaId caller (.text (Route.textOf route))).toJson
  | revokeTokens => do return (← Users.revokeTokens caller (Route.idOf route)).toJson
  | changePassword => do
    let change ← payload setup request ChangeIdentityPassword.ofMembers
    let _ ← Credentials.lifetime (setup.tokenSeconds * 1000000)
    return (← Credentials.changePassword caller change).toJson
  | requestPasswordReset => do
    let wanted ← payload setup request ResetRequest.ofMembers
    let _ ← Credentials.lifetime (setup.tokenSeconds * 1000000)
    return (← Credentials.requestPasswordReset caller wanted).toJson
  | applyPasswordReset => do
    let reset ← payload setup request ResetApply.ofMembers
    let life ← Credentials.lifetime (setup.tokenSeconds * 1000000)
    return (← Credentials.applyPasswordReset life reset).toJson
  | requestEmailVerification => do
    let wanted ← payload setup request ResetRequest.ofMembers
    let _ ← Credentials.lifetime (setup.tokenSeconds * 1000000)
    return (← Credentials.requestEmailVerification caller wanted).toJson
  | applyEmailVerification => do
    let verification ← payload setup request EmailVerifyApply.ofMembers
    let life ← Credentials.lifetime (setup.tokenSeconds * 1000000)
    return (← Credentials.applyEmailVerification life verification).toJson
  | jwtEmail => do
    let login ← payload setup request EmailIdentity.ofMembers
    return tokenJson (← SignIn.withPassword setup.codec login)
  | jwtGoogle => do
    let login ← payload setup request ProviderOauth.ofMembers
    return tokenJson (← SignIn.withProvider setup.codec setup.providers .google login)
  | jwtFacebook => do
    let login ← payload setup request ProviderOauth.ofMembers
    return tokenJson (← SignIn.withProvider setup.codec setup.providers .facebook login)
  | getOwnRoles => do
    match caller.userId with
    | none => fail (.unauthenticated .required)
    | some userId => return .arr ((← Roles.list caller userId).map UserRole.toJson)
  | createRole => do
    return (← Roles.create caller (← payload setup request NewUserRole.ofMembers)).toJson
  | getRoles => do return .arr ((← Roles.list caller (Route.idOf route)).map UserRole.toJson)
  | deleteRole => do return (← Roles.delete caller (Route.idOf route)).toJson
  | createDefaultRole => do return (← Roles.createDefault caller (Route.idOf route)).toJson
  | deleteRoles => do
    return .arr ((← Roles.deleteAll caller (Route.idOf route)).map UserRole.toJson)

/-- The caller of an endpoint; public ones do not ask. -/
def Endpoint.caller (setup : Setup) (request : Request) (endpoint : Endpoint) : Op Caller :=
  if endpoint.isPublic then pure .anonymous else authenticate setup request

def call (setup : Setup) (request : Request) (route : Route) : Op Json := do
  match Endpoint.of? request.method route.kind with
  | none => fail .noRoute
  | some endpoint =>
    let caller ← endpoint.caller setup request
    endpoint.run setup request route caller

end Accounts.Api
