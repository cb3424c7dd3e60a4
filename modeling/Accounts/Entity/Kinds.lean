import Accounts.Text.Case

/-!
# Kinds of credentials, genders and one-time tokens
-/

namespace Accounts

/-- Where the credentials of an identity come from. An e-mail address that was never verified is a
provider of its own, which nobody can log in with. -/
inductive Provider where
  | email
  | unverifiedEmail
  | google
  | facebook
  deriving DecidableEq, Repr

namespace Provider

def name : Provider → String
  | email => "email"
  | unverifiedEmail => "unverified_email"
  | google => "google"
  | facebook => "facebook"

def all : List Provider := [email, unverifiedEmail, google, facebook]

def ofName? (text : String) : Option Provider := all.find? (·.name == text)

end Provider

inductive Gender where
  | male
  | female
  | undefined
  deriving DecidableEq, Repr

namespace Gender

def name : Gender → String
  | male => "male"
  | female => "female"
  | undefined => "undefined"

def all : List Gender := [male, female, undefined]

def ofName? (text : String) : Option Gender := all.find? (·.name == text)

/-- Reads what a profile says, in whatever case; what is unknown is undefined. -/
def lenient (text : Option String) : Gender :=
  match text with
  | none => undefined
  | some text => (ofName? (String.ofList (Text.lower text.toList))).getD undefined

end Gender

inductive TokenType where
  | emailVerify
  | passwordReset
  deriving DecidableEq, Repr

namespace TokenType

def name : TokenType → String
  | emailVerify => "email_verify"
  | passwordReset => "password_reset"

def all : List TokenType := [emailVerify, passwordReset]

def ofName? (text : String) : Option TokenType := all.find? (·.name == text)

end TokenType

end Accounts
