import Accounts.Http.Url
import Accounts.Json.Basic
import Accounts.Settings
import Accounts.Text.Case

/-!
# Reports of errors

What is told to the service that collects errors: how it is set up, which reports are dropped, and
which parts of a report are blanked out.
-/

namespace Accounts.Report

structure Setup where
  dsn : String
  environment : String
  tracesSampleRate : Decimal.Binary64
  deriving Repr

/-- The setup that settings ask for; without an address nothing is collected. -/
def setup? (s : Settings) : Option Setup :=
  if s.sentryDsn.isEmpty then none
  else some ⟨s.sentryDsn, s.environment, if s.isProduction then .ofRatio false 1 10 else 1⟩

/-- Why a report cannot be looked through. -/
inductive Fault where
  /-- A part is of the wrong kind. -/
  | wrongKind
  /-- An address is of a kind that cannot be split. -/
  | unsplittable
  | address (problem : Http.Url.Problem)
  deriving DecidableEq, Repr

/-- The statuses of errors that are the caller's mistake and nobody's bug. -/
def expectedStatuses : List Nat := [400, 401, 403, 404]

/-- The headers that are blanked out. -/
def secretHeaders : List String := ["authorization", "cookie", "x-api-key"]

/-- The request of a report; a report without one has an empty one. -/
def requestOf (event : List (JsonString × Json)) : Except Fault (List (JsonString × Json)) :=
  match Json.find? event "request" with
  | none => .ok []
  | some (.obj members) => .ok members
  | some _ => .error .wrongKind

def isSecret : JsonString → Bool
  | .text name => secretHeaders.contains (String.ofList (Text.lower name.toList))
  | .unpaired .. => false

/-- Blanks out the headers that hold credentials. -/
def scrub (headers : List (JsonString × Json)) : List (JsonString × Json) :=
  headers.map fun (name, value) =>
    (name, if isSecret name then .text "[Filtered]" else value)

/-- What is reported of an error: nothing if its status is an expected one, else the event without
credentials. -/
def filterEvent (status : Option Nat) (event : List (JsonString × Json)) :
    Except Fault (Option (List (JsonString × Json))) := do
  if status.any expectedStatuses.contains then return none
  let request ← requestOf event
  match Json.find? request "headers" with
  | none => return some event
  | some headers =>
    if !headers.truthy then return some event
    match headers with
    | .obj members =>
      let request := Table.put request (.text "headers") (.obj (scrub members))
      return some (Table.put event (.text "request") (.obj request))
    | _ => .error .wrongKind

def transactionName (method : String) (kind : RouteKind) : String := s!"{method} {kind.name}"

def healthcheckPath : String := "/healthcheck"

/-- The address of a request as text. Nothing, or what counts as nothing, is an empty text. -/
def urlOf (request : List (JsonString × Json)) : Except Fault (List Char) :=
  match Json.find? request "url" with
  | none => .ok []
  | some (.str value) => .ok (value.codes.map Char.ofNat)
  | some value =>
    if !value.truthy then .ok []
    else match value with
      | .arr _ | .obj _ => .error .unsplittable
      | _ => .error .wrongKind

/-- What is reported of a transaction: nothing if it is a healthcheck. -/
def filterTransaction (event : List (JsonString × Json)) :
    Except Fault (Option (List (JsonString × Json))) := do
  let healthcheck := transactionName "GET" .healthcheck
  if (Json.find? event "transaction").bind Json.asText? = some healthcheck then return none
  let url ← urlOf (← requestOf event)
  let path ← (Http.Url.pathOf url).mapError .address
  return if path = healthcheckPath.toList then none else some event

end Accounts.Report
