import Accounts.Access.Permission
import Accounts.Entity.Kinds
import Accounts.Json.Basic
import Accounts.Payload.Checked

/-!
# Errors of the service

What can go wrong, by cause. Every error has a message for the caller and a status; an error that is
not the caller's fault is still told apart by its cause, but it says little.
-/

namespace Accounts

/-- What was asked for and is not there. -/
inductive Missing where
  | user (id : Int)
  | callersUser
  | userWithSagaId (sagaId : JsonString)
  /-- The user that an e-mail address or a token belongs to. -/
  | owner
  /-- A role grant that is to be revoked. -/
  | grant (id : Int)
  /-- A role grant that is gone by the time it is removed. -/
  | role (id : Int)
  /-- The caller has no password. -/
  | ownCredentials
  | identity (provider : Provider) (email : String)
  deriving DecidableEq, Repr

/-- Why a session token is refused. -/
inductive TokenProblem where
  | segments
  | headerPadding
  | headerString
  | headerObject
  | detachedPayload
  | detachedContent
  | payloadPadding
  | payloadString
  | payloadObject
  | signaturePadding
  | keyId
  | criticalList
  | criticalText
  | criticalUnknown (name : String)
  /-- The name holds an unpaired surrogate. -/
  | criticalUnpaired (codes : List Nat)
  | criticalMissing (name : String)
  | noAlgorithm
  | algorithmNotAllowed
  | algorithmUnknown
  | signature
  | noEmail
  | issuedAt
  | notBefore
  | expiration
  | notYetIssued
  | notYetValid
  | expired
  | audience
  | subject
  | tokenId
  deriving DecidableEq, Repr

/-- Why a caller is not let in. -/
inductive AuthProblem where
  /-- Says nothing about why. -/
  | credentials
  | required
  | noEmail
  | token (problem : TokenProblem)
  deriving DecidableEq, Repr

/-- Why another provider did not give a profile. -/
inductive ProviderProblem where
  | timedOut
  | transport (message : String)
  | status (code : Int)
  | unreadable
  deriving DecidableEq, Repr

/-- Why the store failed. -/
inductive StoreProblem where
  | noSlot
  | duplicateUser (email : String)
  | duplicateIdentity (email : String) (provider : Provider)
  | broken (message : String)
  deriving DecidableEq, Repr

inductive ServiceError where
  | noRoute
  | missing (what : Missing)
  /-- Complaints by field. -/
  | invalid (fields : Table String (List String))
  | unauthenticated (problem : AuthProblem)
  | denied (action : Action) (resource : Resource)
  | providerFailed (provider : Provider) (problem : ProviderProblem)
  | store (problem : StoreProblem)
  /-- A session token for this e-mail address could not be signed. -/
  | tokenEncoding (email : String)
  deriving DecidableEq, Repr

def Missing.message : Missing → String
  | user id => s!"User {id} not found"
  | callersUser => "Current user not found"
  | userWithSagaId sagaId =>
    s!"User with saga id {String.ofList (sagaId.codes.map Char.ofNat)} not found"
  | owner => "User not found"
  | grant id => s!"User role {id} not found"
  | role id => s!"Role {id} not found"
  | ownCredentials => "No verified email identity for the current user"
  | identity provider email => s!"No {provider.name} identity for {email}"

def TokenProblem.text : TokenProblem → String
  | segments => "Not enough segments"
  | headerPadding => "Invalid header padding"
  | headerString => "Invalid header string"
  | headerObject => "Invalid header string: must be a json object"
  | detachedPayload => "Payload segment must be empty when 'b64' is false."
  | detachedContent =>
    "It is required that you pass in a value for the \"detached_payload\" argument to decode a " ++
      "message having the b64 header set to false."
  | payloadPadding => "Invalid payload padding"
  | payloadString => "Invalid payload string"
  | payloadObject => "Invalid payload string: must be a json object"
  | signaturePadding => "Invalid crypto padding"
  | keyId => "Key ID header parameter must be a string"
  | criticalList => "Invalid 'crit' header: must be a non-empty list"
  | criticalText => "Invalid 'crit' header: values must be strings"
  | criticalUnknown name => s!"Unsupported critical extension: {name}"
  | criticalUnpaired codes =>
    s!"Unsupported critical extension: {String.ofList (codes.map Char.ofNat)}"
  | criticalMissing name => s!"Critical extension '{name}' is missing from headers"
  | noAlgorithm => "Algorithm not specified"
  | algorithmNotAllowed => "The specified alg value is not allowed"
  | algorithmUnknown => "Algorithm not supported"
  | signature => "Signature verification failed"
  | noEmail => "Token is missing the \"email\" claim"
  | issuedAt => "Issued At claim (iat) must be an integer."
  | notBefore => "Not Before claim (nbf) must be an integer."
  | expiration => "Expiration Time claim (exp) must be an integer."
  | notYetIssued => "The token is not yet valid (iat)"
  | notYetValid => "The token is not yet valid (nbf)"
  | expired => "Signature has expired"
  | audience => "Invalid audience"
  | subject => "Subject must be a string"
  | tokenId => "JWT ID must be a string"

def AuthProblem.message : AuthProblem → String
  | credentials => "Email or password are incorrect"
  | required => "Authentication required"
  | noEmail => "There is no user email in the request"
  | token problem => "Invalid token: " ++ problem.text

def ProviderProblem.message (provider : Provider) : ProviderProblem → String
  | timedOut => s!"Failed to receive user info from {provider.name}: timed out"
  | transport message => s!"Failed to receive user info from {provider.name}: {message}"
  | status code => s!"Failed to receive user info from {provider.name}: {code}"
  | unreadable => s!"Failed to parse user info from {provider.name}"

def StoreProblem.message : StoreProblem → String
  | noSlot => "Timed out waiting for a database connection"
  | duplicateUser email => s!"Duplicate user email: {email}"
  | duplicateIdentity email provider => s!"Duplicate identity: {email} / {provider.name}"
  | broken message => s!"Store operation failed: {message}"

namespace ServiceError

def message : ServiceError → String
  | noRoute => "Not found"
  | missing what => what.message
  | invalid _ => "Validation error"
  | unauthenticated problem => problem.message
  | denied action resource => s!"Denied {action.name} access to {resource.name}"
  | providerFailed provider problem => problem.message provider
  | store problem => problem.message
  | tokenEncoding email =>
    s!"Couldn't encode jwt: TokenPayload(email={Text.Quoted.quotedString email})"

/-- The status of an answer that carries the error. -/
def status : ServiceError → Nat
  | noRoute => 404
  | missing _ => 404
  | invalid _ => 400
  | unauthenticated _ => 401
  | denied .. => 403
  | providerFailed .. => 502
  | store _ => 500
  | tokenEncoding _ => 500

/-- Whether the message is a text, so that it can be sent. -/
def isTellable : ServiceError → Bool
  | unauthenticated (.token (.criticalUnpaired _)) => false
  | missing (.userWithSagaId sagaId) => sagaId.isText
  | _ => true

/-- One field with one complaint. -/
def field (name message : String) : ServiceError := .invalid [(name, [message])]

end ServiceError

/-- What ends an operation without an error of the service: a fault that nobody foresaw. -/
inductive Crash where
  /-- A payload that the service made itself was refused. -/
  | payload (complaints : List Payload.FieldComplaint)
  /-- A value of the wrong kind, with a text about it. -/
  | value (message : String)
  | tooDeep
  /-- A span of time beyond all calendars. -/
  | overflow
  /-- The signing key cannot be used with the algorithm. -/
  | key
  /-- A text that cannot be sent in a header. -/
  | headerEncoding
  /-- A surrogate where a text is to be encoded. -/
  | surrogate
  /-- An address that cannot be called. -/
  | address
  deriving DecidableEq, Repr

inductive Failure where
  | service (error : ServiceError)
  | crash (crash : Crash)
  deriving DecidableEq, Repr

end Accounts
