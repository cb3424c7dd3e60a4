import Accounts.Settings

/-!
# Launching

What the server is launched with: the level of its log, the address it listens on and what it calls
itself.
-/

namespace Accounts

structure Launch where
  /-- The level of the program's own log. -/
  basicLevel : String
  host : String
  port : Int
  /-- The level of the server's log. -/
  logLevel : String
  deriving DecidableEq, Repr

namespace Launch

def title : String := "Users API"

def version : String := "0.1.0"

def ofSettings (s : Settings) : Launch where
  basicLevel := String.ofList (Text.upper s.logLevel.toList)
  host := s.apiHost
  port := s.apiPort
  logLevel := String.ofList (Text.lower s.logLevel.toList)

def toJson (l : Launch) : Json := .record
  [("basic_level", .text l.basicLevel), ("host", .text l.host), ("port", .int l.port),
    ("log_level", .text l.logLevel), ("title", .text title), ("version", .text version)]

end Launch

end Accounts
