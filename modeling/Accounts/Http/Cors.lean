import Accounts.Http.Message

/-!
# Requests from other origins

Browsers ask beforehand whether a page of another origin may make a request, and read from a
response whether the page may see it.
-/

namespace Accounts.Http.Cors

def knownMethods : List String :=
  ["DELETE", "GET", "HEAD", "OPTIONS", "PATCH", "POST", "PUT", "QUERY"]

/-- Whether pages of an origin may talk to the service. A star stands for all origins. -/
def allows (origins : List String) (origin : String) : Bool :=
  origins.contains "*" || origins.contains origin

/-- The origin of a request, if it is an allowed one. -/
def allowedOrigin? (origins : List String) (request : Request) : Option String :=
  (request.header? "origin").filter (allows origins)

/-- The answer to a question beforehand; other requests are none. -/
def preflight? (origins : List String) (request : Request) : Option Response := do
  let origin ← request.header? "origin"
  let method ← request.header? "access-control-request-method"
  if request.method != "OPTIONS" then none
  else
    let problems := (if allows origins origin then [] else ["origin"]) ++
      (if knownMethods.contains method then [] else ["method"])
    let allowOrigin := allowedOrigin? origins request
    if problems.isEmpty then some ⟨200, .text "OK", allowOrigin⟩
    else some ⟨400, .text ("Disallowed CORS " ++ ", ".intercalate problems), allowOrigin⟩

end Accounts.Http.Cors
