import Accounts.Json.Basic
import Accounts.Text.Blank
import Accounts.Text.Case

/-!
# Requests and responses
-/

namespace Accounts.Http

/-- A request, with its path decoded and its query as it came. -/
structure Request where
  method : String
  path : List Char
  query : List Char
  headers : List (String × String)
  body : List UInt8
  deriving Repr

inductive Content where
  | json (value : Json)
  | text (value : String)
  deriving Repr

structure Response where
  status : Nat
  content : Content
  /-- The origin whose pages may read the response. -/
  allowOrigin : Option String
  deriving Repr

namespace Request

/-- The first header of a name; case does not count. -/
def header? (request : Request) (name : String) : Option String :=
  (request.headers.find? fun (other, _) => other.toList.map Char.toLower == name.toList).map (·.2)

/-- The credentials of a bearer token. Another scheme, or nothing behind it, is like no header. -/
def bearer? (request : Request) : Option (List Char) := do
  let value ← request.header? "authorization"
  let scheme := value.toList.takeWhile (· != ' ')
  let credentials := Text.trim ((value.toList.dropWhile (· != ' ')).drop 1)
  if Text.lower scheme == "bearer".toList && !credentials.isEmpty then some credentials else none

end Request

end Accounts.Http
