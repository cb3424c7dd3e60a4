import Accounts.Payload.Forms

/-!
# Profiles of other providers

What Google and Facebook say about a person. A profile makes a new user where there is none with its
e-mail address, and fills the gaps of one that is there; it never replaces what is known already.
-/

namespace Accounts

open Payload

/-- A profile, as its provider tells it. -/
inductive Profile where
  | google (id : JsonString) (email : String)
      (name givenName familyName picture : Option JsonString) (verifiedEmail : Bool)
  | facebook (id : JsonString) (email : String)
      (firstName lastName name gender : Option JsonString)
  deriving DecidableEq, Repr

namespace Profile

def provider : Profile → Provider
  | google .. => .google
  | facebook .. => .facebook

def email : Profile → String
  | google _ email .. => email
  | facebook _ email .. => email

/-- Drops a string that is empty. -/
def filled (value : Option JsonString) : Option JsonString := value.filter (· != .text "")

/-- The first name that the provider gives, which may be empty. -/
def givenFirstName : Profile → Option JsonString
  | google _ _ name givenName .. => (filled givenName).or name
  | facebook _ _ firstName .. => firstName

def firstName (p : Profile) : Option JsonString := filled p.givenFirstName

def lastName : Profile → Option JsonString
  | google _ _ _ _ familyName .. => filled familyName
  | facebook _ _ _ lastName .. => filled lastName

def gender : Profile → Gender
  | google .. => .undefined
  | facebook _ _ _ _ _ gender => .lenient (gender.bind JsonString.text?)

/-- Whether a new user's e-mail address counts as verified. Facebook only tells addresses that
are. -/
def emailVerified : Profile → Bool
  | google _ _ _ _ _ _ verified => verified
  | facebook .. => true

/-- Whether the profile verifies the e-mail address of a user that is there. -/
def verifies : Profile → Bool
  | google _ _ _ _ _ _ verified => verified
  | facebook .. => false

def googleOfMembers (members : Members) : Checked Profile :=
  let optionalString (name : String) := optional members name (nullable anyString) none
  google <$> optional members "id" anyString (.text "") <*>
    required members "email" emailAddress <*> optionalString "name" <*>
    optionalString "given_name" <*> optionalString "family_name" <*> optionalString "picture" <*>
    optional members "verified_email" boolean false

def facebookOfMembers (members : Members) : Checked Profile :=
  let optionalString (name : String) := optional members name (nullable anyString) none
  facebook <$> optional members "id" anyString (.text "") <*>
    required members "email" emailAddress <*> optionalString "first_name" <*>
    optionalString "last_name" <*> optionalString "name" <*>
    optionalString "gender"

/-- The profile that an object of a provider holds. -/
def ofMembers (provider : Provider) (members : Members) : Checked Profile :=
  match provider with
  | .facebook => facebookOfMembers members
  | _ => googleOfMembers members

def ofJson (provider : Provider) : Json → Checked Profile
  | .obj members => ofMembers provider members
  | _ =>
    let name := if provider = .facebook then "FacebookProfile" else "GoogleProfile"
    .bad [⟨"body", .notModel name⟩]

/-- The user to create where nobody has the profile's e-mail address yet. -/
def newUser (p : Profile) : NewUser :=
  { NewUser.bare p.email none with
    firstName := p.firstName, lastName := p.lastName, gender := p.gender
    emailVerified := p.emailVerified }

/-- Fills the gaps of a user. The names are taken as they are, without a check. -/
def merge (p : Profile) (now : Timestamp) (u : User) : UpdateUser :=
  { UpdateUser.nothing with
    lastLoginAt := some (some now)
    firstName := if u.firstName.isNone then p.firstName.map some else none
    lastName := if u.lastName.isNone then p.lastName.map some else none
    gender :=
      if u.gender = some .undefined ∧ p.gender ≠ .undefined then some (some p.gender) else none
    emailVerified := if u.emailVerified ≠ some true ∧ p.verifies then some (some true) else none }

def toJson : Profile → Json
  | google id email name givenName familyName picture verifiedEmail => .record
    [("id", .str id), ("email", .text email), ("name", .optionalString name),
      ("given_name", .optionalString givenName), ("family_name", .optionalString familyName),
      ("picture", .optionalString picture), ("verified_email", .bool verifiedEmail)]
  | facebook id email firstName lastName name gender => .record
    [("id", .str id), ("email", .text email), ("first_name", .optionalString firstName),
      ("last_name", .optionalString lastName), ("name", .optionalString name),
      ("gender", .optionalString gender)]

end Profile

end Accounts
