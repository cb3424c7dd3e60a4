import Accounts.Base64
import Accounts.Error
import Accounts.Json.Parser
import Accounts.Json.Printer
import Accounts.Payload.Scalar
import Accounts.SessionToken.Key
import Accounts.Text.IntegerText

/-!
# Session tokens

A session token carries an e-mail address under a signature: a header that names the algorithm, a
payload and the signature of both, each in unpadded base64, with periods between them. Reading a
token checks it part by part in a fixed order, which decides the reason given for a token with
several faults.
-/

namespace Accounts.SessionToken

/-- The secret and the name of the algorithm that tokens are signed and checked with. -/
structure Codec where
  secret : Secret
  algorithm : String
  deriving DecidableEq, Repr

/-- The octets of a text in which every character is an octet. -/
def octets (text : List Char) : List UInt8 := Text.Utf8.encode text

/-- A value as a segment of a token. -/
def segment (value : Json) : List Char :=
  Base64.encodeUnpadded Base64.addressSafe (octets value.print)

def header (algorithm : String) : Json := .record [("alg", .text algorithm), ("typ", .text "JWT")]

def payload (email : String) : Json := .record [("email", .text email)]

namespace Codec

/-- The token for an e-mail address; there is none if the codec cannot sign. -/
def encode? (codec : Codec) (email : String) : Option String := do
  let algorithm ← Algorithm.ofName? codec.algorithm
  if algorithm.takes codec.secret then
    let message := segment (header codec.algorithm) ++ '.' :: segment (payload email)
    let signature := algorithm.sign codec.secret.key (octets message)
    some (String.ofList (message ++ '.' :: Base64.encodeUnpadded Base64.addressSafe signature))
  else none

end Codec

/-! ## Reading -/

/-- The parts of a token that was taken apart. -/
structure Parts where
  /-- What the signature is about. -/
  message : List Char
  header : Payload.Members
  payload : List UInt8
  signature : List UInt8

def refused (problem : TokenProblem) : Failure := .service (.unauthenticated (.token problem))

/-- Splits a text at the last occurrence of a character. -/
def splitLast? (sep : Char) (text : List Char) : Option (List Char × List Char) :=
  let back := text.reverse
  match back.dropWhile (· != sep) with
  | [] => none
  | _ :: front => some (front.reverse, (back.takeWhile (· != sep)).reverse)

def splitFirst? (sep : Char) (text : List Char) : Option (List Char × List Char) :=
  match text.dropWhile (· != sep) with
  | [] => none
  | _ :: rest => some (text.takeWhile (· != sep), rest)

/-- The object that octets hold. -/
def object (depth : Json.Depth) (malformed notObject : TokenProblem) (octets : List UInt8) :
    Except Failure Payload.Members :=
  match Json.parseOctets depth octets with
  | .ok (.obj members) => .ok members
  | .ok _ => .error (refused notObject)
  | .error .malformed => .error (refused malformed)
  | .error .tooDeep => .error (.crash .tooDeep)

def unsegment (problem : TokenProblem) (text : List Char) : Except Failure (List UInt8) :=
  match Base64.decodeUnpadded? text with
  | some octets => .ok octets
  | none => .error (refused problem)

/-- The payload of this token is kept elsewhere. -/
def isDetached (header : Payload.Members) : Bool :=
  match Json.find? header "b64" with
  | some (.bool false) => true
  | _ => false

def parts (depth : Json.Depth) (token : List Char) : Except Failure Parts := do
  let some (message, signature) := splitLast? '.' token | .error (refused .segments)
  let some (head, body) := splitFirst? '.' message | .error (refused .segments)
  let headerOctets ← unsegment .headerPadding head
  let header ← object depth .headerString .headerObject headerOctets
  if isDetached header && !body.isEmpty then .error (refused .detachedPayload)
  let payload ← unsegment .payloadPadding body
  let signature ← unsegment .signaturePadding signature
  .ok ⟨message, header, payload, signature⟩

/-- Extensions of the token format that are understood. -/
def knownExtensions : List String := ["b64"]

/-- Checks the names of the extensions that a token insists on. -/
def checkCritical (header : Payload.Members) : List Json → Except Failure Unit
  | [] => .ok ()
  | .str (.text name) :: rest =>
    if !knownExtensions.contains name then .error (refused (.criticalUnknown name))
    else if (Json.find? header name).isNone then .error (refused (.criticalMissing name))
    else checkCritical header rest
  | .str (.unpaired codes _) :: _ => .error (refused (.criticalUnpaired codes))
  | _ :: _ => .error (refused .criticalText)

/-- Checks the fields of a header that do not depend on the codec. -/
def checkHeader (header : Payload.Members) : Except Failure Unit := do
  match Json.find? header "kid" with
  | none | some (.str _) => pure ()
  | some _ => .error (refused .keyId)
  match Json.find? header "crit" with
  | none => pure ()
  | some (.arr (first :: rest)) => checkCritical header (first :: rest)
  | some _ => .error (refused .criticalList)
  if isDetached header then .error (refused .detachedContent)

def checkSignature (codec : Codec) (parts : Parts) : Except Failure Unit := do
  match Json.find? parts.header "alg" with
  | none => .error (refused .noAlgorithm)
  | some named =>
    if codec.algorithm = "" ∨ named.asText? ≠ some codec.algorithm then
      .error (refused .algorithmNotAllowed)
  let some algorithm := Algorithm.ofName? codec.algorithm | .error (refused .algorithmUnknown)
  if !algorithm.takes codec.secret then .error (.crash .key)
  let expected := algorithm.sign codec.secret.key (octets parts.message)
  if algorithm = .unsigned ∨ parts.signature ≠ expected then .error (refused .signature)

/-- The whole number that a claim about time holds. -/
def seconds? : Json → Option Int
  | .int n => some n
  | .bool b => some (if b then 1 else 0)
  | .float x =>
    match x.floor? with
    | some (whole, fraction) => some (if fraction && whole < 0 then whole + 1 else whole)
    | none => none
  | .str (.text text) => Text.IntegerText.parse? text.toList
  | _ => none

/-- Checks a claim about time, if it is there. -/
def checkTime (claims : Payload.Members) (name : String) (notNumber : TokenProblem)
    (wrong : TokenProblem) (isWrong : Int → Bool) : Except Failure Unit :=
  match Json.find? claims name with
  | none => .ok ()
  | some value =>
    match seconds? value with
    | none => .error (refused notNumber)
    | some n => if isWrong n then .error (refused wrong) else .ok ()

/-- Checks a claim that has to be a text, if it is there. -/
def checkText (claims : Payload.Members) (name : String) (problem : TokenProblem) :
    Except Failure Unit :=
  match Json.find? claims name with
  | none | some (.str _) => .ok ()
  | some _ => .error (refused problem)

/-- Checks the claims of a payload. `now` is in seconds. -/
def checkClaims (now : Int) (claims : Payload.Members) : Except Failure Unit := do
  match Json.find? claims "email" with
  | none | some .null => .error (refused .noEmail)
  | some _ => pure ()
  checkTime claims "iat" .issuedAt .notYetIssued fun n => decide (now < n)
  checkTime claims "nbf" .notBefore .notYetValid fun n => decide (now < n)
  checkTime claims "exp" .expiration .expired fun n => decide (n ≤ now)
  if ((Json.find? claims "aud").map Json.truthy).getD false then .error (refused .audience)
  checkText claims "sub" .subject
  checkText claims "jti" .tokenId

/-- The e-mail address of a token, whose header and payload may be nested `depth` deep. Any string
passes for an address. -/
def Codec.decode (codec : Codec) (depth : Json.Depth) (now : Int) (token : List Char) :
    Except Failure JsonString := do
  let parts ← parts depth token
  checkHeader parts.header
  checkSignature codec parts
  let claims ← object depth .payloadString .payloadObject parts.payload
  checkClaims now claims
  match (Payload.required claims "email" Payload.anyString).toExcept with
  | .ok email => .ok email
  | .error complaints => .error (.crash (.payload complaints))

end Accounts.SessionToken
