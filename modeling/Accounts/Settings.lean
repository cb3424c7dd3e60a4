import Accounts.Api.Handler
import Accounts.Payload.Scalar

/-!
# Settings

What the service is set up by: names with values, from the environment or given directly, each with
a value of its own where it is not set. In the environment the case of names does not count and
unknown names are nobody's business; among names given directly an unknown one is a mistake.
-/

namespace Accounts

open Payload Text

structure Settings where
  environment : String
  debug : Bool
  logLevel : String
  apiHost : String
  apiPort : Int
  corsOrigins : String
  jwtSecretKey : String
  jwtAlgorithm : String
  googleInfoUrl : String
  googleOauthClientId : String
  googleOauthClientSecret : String
  facebookInfoUrl : String
  facebookOauthClientId : String
  facebookOauthClientSecret : String
  providerTimeoutSeconds : Decimal.Binary64
  resetTokenTtlSeconds : Int
  dbPoolSize : Int
  dbAcquireTimeoutSeconds : Decimal.Binary64
  rolesCacheTtlSeconds : Int
  sentryDsn : String
  deriving Repr

/-- Digits in which single underscores may stand between digits, as digits alone. -/
def Payload.digitsOrNone? (text : List Char) : Option (List Char) :=
  if text.isEmpty then some [] else plainDigits? text

/-- A decimal exponent, possibly with a sign. -/
def Payload.exponent? (text : List Char) : Option Int :=
  let (negative, body) := match text with
    | '-' :: rest => (true, rest)
    | '+' :: rest => (false, rest)
    | rest => (false, rest)
  (plainDigits? body).map fun digits =>
    let size : Int := IntegerText.ofDigits (digits.map digitValue)
    if negative then -size else size

/-- A decimal number, infinity or the name of what is no number, without a sign. -/
def Payload.unsignedNumber? (negative : Bool) (text : List Char) : Option Decimal.Binary64 :=
  let lowered := text.map Char.toLower
  if lowered == "inf".toList || lowered == "infinity".toList then some (.infinite negative)
  else if lowered == "nan".toList then some .nan
  else do
    let mantissa := lowered.takeWhile (· != 'e')
    let exponent ← match lowered.dropWhile (· != 'e') with
      | _ :: rest => exponent? rest
      | [] => some 0
    let whole ← digitsOrNone? (mantissa.takeWhile (· != '.'))
    let fraction ← digitsOrNone? ((mantissa.dropWhile (· != '.')).drop 1)
    if whole.isEmpty && fraction.isEmpty then none
    else some (.ofDecimal negative (IntegerText.ofDigits ((whole ++ fraction).map digitValue))
      (exponent - fraction.length))

/-- A number, possibly with a fraction. -/
def Payload.number : FieldReader Decimal.Binary64
  | .float value => .ok value
  | .int value => .ok (.ofInt value)
  | .bool value => .ok (.ofInt (if value then 1 else 0))
  | .str (.text value) =>
    let found := match trimBy isWhiteSpace value.toList with
      | '-' :: rest => unsignedNumber? true rest
      | '+' :: rest => unsignedNumber? false rest
      | rest => unsignedNumber? false rest
    match found with
    | some value => .ok value
    | none => .error .numberText
  | .str (.unpaired ..) => .error .unpairedText
  | _ => .error .notNumber

namespace Settings

def names : List String :=
  ["environment", "debug", "log_level", "api_host", "api_port", "cors_origins", "jwt_secret_key",
    "jwt_algorithm", "google_info_url", "google_oauth_client_id", "google_oauth_client_secret",
    "facebook_info_url", "facebook_oauth_client_id", "facebook_oauth_client_secret",
    "provider_timeout_seconds", "reset_token_ttl_seconds", "db_pool_size",
    "db_acquire_timeout_seconds", "roles_cache_ttl_seconds", "sentry_dsn"]

/-- The settings given directly. -/
def ofMembers (members : Members) : Checked Settings :=
  let word (name : String) (usual : String) := optional members name plainText usual
  let whole (name : String) (usual : Int) := optional members name integer usual
  closed members names <|
    mk <$> word "environment" "development" <*> optional members "debug" boolean true <*>
      word "log_level" "INFO" <*> word "api_host" "0.0.0.0" <*> whole "api_port" 8000 <*>
      word "cors_origins" "http://localhost:3000" <*>
      word "jwt_secret_key" "dev-jwt-secret-change-in-production" <*>
      word "jwt_algorithm" "HS256" <*>
      word "google_info_url" "https://www.googleapis.com/oauth2/v2/userinfo" <*>
      word "google_oauth_client_id" "" <*> word "google_oauth_client_secret" "" <*>
      word "facebook_info_url" "https://graph.facebook.com/v18.0/me" <*>
      word "facebook_oauth_client_id" "" <*> word "facebook_oauth_client_secret" "" <*>
      optional members "provider_timeout_seconds" number 5 <*>
      whole "reset_token_ttl_seconds" 86400 <*> whole "db_pool_size" 10 <*>
      optional members "db_acquire_timeout_seconds" number 30 <*>
      whole "roles_cache_ttl_seconds" 600 <*> word "sentry_dsn" ""

/-- The settings of an environment. The last of several names that differ in case counts. -/
def ofEnvironment (given : List (String × String)) : Checked Settings :=
  let known := given.filterMap fun (name, value) =>
    let lowered := String.ofList (lower name.toList)
    if names.contains lowered then some (lowered, value) else none
  ofMembers (known.foldl (fun members (name, value) =>
    Table.put members (.text name) (.text value)) [])

/-- The origins whose pages may talk to the service. -/
def origins (s : Settings) : List String :=
  ((splitOn ',' s.corsOrigins.toList).map trim).filterMap fun origin =>
    if origin.isEmpty then none else some (String.ofList origin)

def isProduction (s : Settings) : Bool := s.environment == "production"

def toJson (s : Settings) : Json := .record
  [("environment", .text s.environment), ("debug", .bool s.debug), ("log_level", .text s.logLevel),
    ("api_host", .text s.apiHost), ("api_port", .int s.apiPort),
    ("cors_origins", .text s.corsOrigins), ("jwt_secret_key", .text s.jwtSecretKey),
    ("jwt_algorithm", .text s.jwtAlgorithm), ("google_info_url", .text s.googleInfoUrl),
    ("google_oauth_client_id", .text s.googleOauthClientId),
    ("google_oauth_client_secret", .text s.googleOauthClientSecret),
    ("facebook_info_url", .text s.facebookInfoUrl),
    ("facebook_oauth_client_id", .text s.facebookOauthClientId),
    ("facebook_oauth_client_secret", .text s.facebookOauthClientSecret),
    ("provider_timeout_seconds", .float s.providerTimeoutSeconds),
    ("reset_token_ttl_seconds", .int s.resetTokenTtlSeconds), ("db_pool_size", .int s.dbPoolSize),
    ("db_acquire_timeout_seconds", .float s.dbAcquireTimeoutSeconds),
    ("roles_cache_ttl_seconds", .int s.rolesCacheTtlSeconds), ("sentry_dsn", .text s.sentryDsn)]

def codec (s : Settings) : SessionToken.Codec := ⟨s.jwtSecretKey, s.jwtAlgorithm⟩

/-- What the service is set up with, given what other providers answer and how deep the readers of
these answers, of tokens and of bodies go. -/
def setup (s : Settings) (reply : ProviderRequest → ProviderReply)
    (replyDepth tokenDepth bodyDepth : Json.Depth) : Api.Setup where
  codec := s.codec
  providers := ⟨s.googleInfoUrl, s.facebookInfoUrl, replyDepth, reply⟩
  tokenDepth := tokenDepth
  bodyDepth := bodyDepth
  tokenSeconds := s.resetTokenTtlSeconds
  origins := s.origins

end Settings

end Accounts
