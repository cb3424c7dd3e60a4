import Accounts.Api.Handler
import Accounts.Http.Cors

/-!
# The server

What becomes of a request as a whole: questions beforehand from other origins, paths and methods
that are refused before any routing, the route and its endpoint, and how answers and errors are
rendered.
-/

namespace Accounts.Api

open Http

/-- The methods that are routed at all. -/
def routedMethods : List String := ["GET", "POST", "PUT", "DELETE", "PATCH"]

/-- A path that is routed: a slash, and a line feed nowhere but at the very end. -/
def isRoutable : List Char → Bool
  | '/' :: rest =>
    !(rest.contains '\n') || (rest.getLast? == some '\n' && !rest.dropLast.contains '\n')
  | _ => false

/-- The path without slashes at its end if it has some, with one if it has none. -/
def toggleSlash (path : List Char) : List Char :=
  if path.getLast? == some '/' then Text.trimRightBy (· == '/') path else path ++ ['/']

/-- The path that routes are looked up by: tabs and line breaks are dropped, and the characters that
separate the parts of an address are escaped. -/
def routedPath (path : List Char) : List Char :=
  path.flatMap fun c =>
    if c = '\t' || c = '\r' || c = '\n' then []
    else if c = '?' then "%3F".toList
    else if c = '#' then "%23".toList
    else if c = '\\' then "%5C".toList
    else [c]

def errorJson (error : ServiceError) : Json :=
  .record ([("error", .text error.message)] ++
    match error with
    | .invalid fields =>
      [("fields", .record (fields.map fun (name, messages) => (name, .arr (messages.map .text))))]
    | _ => [])

/-- The answer to a fault. It says nothing, and no page of another origin may see it. -/
def fault : Response := ⟨500, .json (.record [("error", .text "Internal error")]), none⟩

/-- The answer of an operation. What holds a string that is no text cannot be sent, and comes out as
a fault, whatever the operation has done; so does an error with such a message. -/
def render (allowOrigin : Option String) : Except Failure Json → Response
  | .ok value => if value.isTellable then ⟨200, .json value, allowOrigin⟩ else fault
  | .error (.service error) =>
    if error.isTellable then ⟨error.status, .json (errorJson error), allowOrigin⟩ else fault
  | .error (.crash _) => fault

def detail (status : Nat) (text : String) (allowOrigin : Option String) : Response :=
  ⟨status, .json (.record [("detail", .text text)]), allowOrigin⟩

/-- Answers a request whose path and method are routed. -/
def dispatch (setup : Setup) (request : Request) : Op Json := do
  match Route.ofPath? (routedPath request.path) with
  | none => Op.fail .noRoute
  | some route => call setup request route

def answer (setup : Setup) (request : Request) (w : World) : Response × World :=
  match Cors.preflight? setup.origins request with
  | some response => (response, w)
  | none =>
    let allowOrigin := Cors.allowedOrigin? setup.origins request
    if !isRoutable request.path then
      if request.path ≠ ['/'] ∧ isRoutable (toggleSlash request.path) then
        (⟨307, .text "", allowOrigin⟩, w)
      else (detail 404 "Not Found" allowOrigin, w)
    else if !routedMethods.contains request.method then
      (detail 405 "Method Not Allowed" allowOrigin, w)
    else
      let (result, w) := (dispatch setup request).exec w
      (render allowOrigin result, w)

end Accounts.Api
