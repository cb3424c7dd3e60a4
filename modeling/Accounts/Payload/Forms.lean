import Accounts.Entity.Records
import Accounts.Payload.Scalar
import Accounts.Text.Quoted

/-!
# Payloads

What is sent to the service, form by form: which fields there are, which have to be there, and what
each may hold. Most forms are closed, that is, they refuse fields that they do not know. A form's
`text` shows it without its secrets.

A form that may carry a saga id keeps what was sent; the service gives a fresh one where none was.
-/

namespace Accounts

open Payload

/-- Sign-up with e-mail and password. -/
structure NewIdentity where
  email : String
  password : String
  sagaId : Option JsonString
  deriving DecidableEq, Repr

/-- Login with e-mail and password. -/
structure EmailIdentity where
  email : String
  password : String
  deriving DecidableEq, Repr

/-- Change of the caller's own password. -/
structure ChangeIdentityPassword where
  oldPassword : String
  newPassword : String
  deriving DecidableEq, Repr

/-- Login with a token of another provider. -/
structure ProviderOauth where
  token : String
  deriving DecidableEq, Repr

structure ResetRequest where
  email : String
  deriving DecidableEq, Repr

/-- Sets a new password with a one-time token. -/
structure ResetApply where
  token : String
  password : String
  deriving DecidableEq, Repr

/-- Verifies an e-mail address with a one-time token. -/
structure EmailVerifyApply where
  token : String
  deriving DecidableEq, Repr

structure NewUserRole where
  userId : Int
  role : Role
  deriving DecidableEq, Repr

/-- A user to be created. -/
structure NewUser where
  email : String
  phone : Option JsonString
  firstName : Option JsonString
  lastName : Option JsonString
  middleName : Option JsonString
  gender : Gender
  birthdate : Option Timestamp
  emailVerified : Bool
  sagaId : Option JsonString
  deriving DecidableEq, Repr

/-- Changes to a profile. A field that is `none` is left alone; one that is `some none` is
cleared. -/
structure UpdateProfile where
  phone : Option (Option JsonString)
  firstName : Option (Option JsonString)
  lastName : Option (Option JsonString)
  middleName : Option (Option JsonString)
  gender : Option (Option Gender)
  birthdate : Option (Option Timestamp)
  deriving DecidableEq, Repr

/-- Changes to a user, those included that only the service itself makes. -/
structure UpdateUser where
  phone : Option (Option JsonString)
  firstName : Option (Option JsonString)
  lastName : Option (Option JsonString)
  middleName : Option (Option JsonString)
  gender : Option (Option Gender)
  birthdate : Option (Option Timestamp)
  isActive : Option (Option Bool)
  emailVerified : Option (Option Bool)
  lastLoginAt : Option (Option Timestamp)
  deriving DecidableEq, Repr

/-- Passwords have 8 to 30 characters. -/
def Payload.passwordText : FieldReader String := textOf 8 (some 30)

def Payload.nonEmpty : FieldReader String := textOf 1 none

/-- A name has to be a text. -/
def Payload.givenName : FieldReader JsonString := fun value => (nonEmpty value).map .text

/-- A name may be absent but not empty. -/
def Payload.nameText : FieldReader (Option JsonString) := nullable givenName

def Payload.genderName : FieldReader Gender := choice Gender.all Gender.name

def Payload.roleName : FieldReader Role := choice [Role.superuser, Role.user] Role.name

namespace NewIdentity

def fields : List String := ["email", "password", "saga_id"]

def ofMembers (members : Members) : Checked NewIdentity :=
  closed members fields <|
    mk <$> required members "email" emailAddress <*> required members "password" passwordText <*>
      maybe members "saga_id" anyString

def toJson (fresh : String) (p : NewIdentity) : Json := .record
  [("email", .text p.email), ("password", .text p.password),
    ("saga_id", .str (p.sagaId.getD (.text fresh)))]

def text (fresh : String) (p : NewIdentity) : String :=
  s!"NewIdentity(email={Text.Quoted.quotedString p.email}, password='*****', " ++
    s!"saga_id={Text.Quoted.quotedCodes (p.sagaId.getD (.text fresh)).codes})"

end NewIdentity

namespace EmailIdentity

def fields : List String := ["email", "password"]

def ofMembers (members : Members) : Checked EmailIdentity :=
  mk <$> required members "email" emailAddress <*> required members "password" passwordText

def toJson (p : EmailIdentity) : Json := .record
  [("email", .text p.email), ("password", .text p.password)]

def text (p : EmailIdentity) : String :=
  s!"EmailIdentity(email={Text.Quoted.quotedString p.email}, password='*****')"

end EmailIdentity

namespace ChangeIdentityPassword

def fields : List String := ["old_password", "new_password"]

def ofMembers (members : Members) : Checked ChangeIdentityPassword :=
  closed members fields <|
    mk <$> required members "old_password" nonEmpty <*>
      required members "new_password" passwordText

def toJson (p : ChangeIdentityPassword) : Json := .record
  [("old_password", .text p.oldPassword), ("new_password", .text p.newPassword)]

def text (_ : ChangeIdentityPassword) : String :=
  "ChangeIdentityPassword(old_password='*****', new_password='*****')"

end ChangeIdentityPassword

namespace ProviderOauth

def fields : List String := ["token"]

def ofMembers (members : Members) : Checked ProviderOauth :=
  mk <$> required members "token" nonEmpty

def toJson (p : ProviderOauth) : Json := .record [("token", .text p.token)]

end ProviderOauth

namespace ResetRequest

def fields : List String := ["email"]

def ofMembers (members : Members) : Checked ResetRequest :=
  closed members fields <|
    mk <$> required members "email" emailAddress

def toJson (p : ResetRequest) : Json := .record [("email", .text p.email)]

end ResetRequest

namespace ResetApply

def fields : List String := ["token", "password"]

def ofMembers (members : Members) : Checked ResetApply :=
  closed members fields <|
    mk <$> required members "token" nonEmpty <*> required members "password" passwordText

def toJson (p : ResetApply) : Json := .record
  [("token", .text p.token), ("password", .text p.password)]

def text (p : ResetApply) : String :=
  s!"ResetApply(token={Text.Quoted.quotedString p.token}, password='*****')"

end ResetApply

namespace EmailVerifyApply

def fields : List String := ["token"]

def ofMembers (members : Members) : Checked EmailVerifyApply :=
  closed members fields <|
    mk <$> required members "token" nonEmpty

def toJson (p : EmailVerifyApply) : Json := .record [("token", .text p.token)]

end EmailVerifyApply

namespace NewUserRole

def fields : List String := ["user_id", "role"]

def ofMembers (members : Members) : Checked NewUserRole :=
  mk <$> required members "user_id" integer <*> required members "role" roleName

def toJson (p : NewUserRole) : Json := .record
  [("user_id", .int p.userId), ("role", .text p.role.name)]

end NewUserRole

namespace NewUser

def fields : List String :=
  ["email", "phone", "first_name", "last_name", "middle_name", "gender", "birthdate",
    "email_verified", "saga_id"]

def ofMembers (members : Members) : Checked NewUser :=
  mk <$> required members "email" emailAddress <*>
    optional members "phone" (nullable anyString) none <*>
    optional members "first_name" nameText none <*> optional members "last_name" nameText none <*>
    optional members "middle_name" nameText none <*>
    optional members "gender" genderName .undefined <*>
    optional members "birthdate" (nullable timestamp) none <*>
    optional members "email_verified" boolean false <*> maybe members "saga_id" anyString

def toJson (fresh : String) (p : NewUser) : Json := .record
  [("email", .text p.email), ("phone", .optionalString p.phone),
    ("first_name", .optionalString p.firstName), ("last_name", .optionalString p.lastName),
    ("middle_name", .optionalString p.middleName), ("gender", .text p.gender.name),
    ("birthdate", .optionalTimestamp p.birthdate), ("email_verified", .bool p.emailVerified),
    ("saga_id", .str (p.sagaId.getD (.text fresh)))]

/-- A user with nothing but an e-mail address. -/
def bare (email : String) (sagaId : Option JsonString) : NewUser :=
  ⟨email, none, none, none, none, .undefined, none, false, sagaId⟩

/-- The names of a user that are no texts, by field. -/
def unpairedNames (p : NewUser) : List (String × List Nat) :=
  [("first_name", p.firstName), ("last_name", p.lastName), ("middle_name", p.middleName)].filterMap
    fun
    | (field, some (.unpaired codes _)) => some (field, codes)
    | _ => none

def checkNames (p : NewUser) : Checked Unit :=
  match p.unpairedNames with
  | [] => .ok ()
  | names => .bad (names.map fun (field, _) => ⟨field, .unpairedText⟩)

/-- Checks the e-mail address and the names of a user that the service itself is going to create. No
name of such a user is empty. -/
def checked (p : NewUser) : Checked NewUser :=
  (fun email _ => { p with email }) <$> check "email" (emailAddress (.text p.email)) <*>
    p.checkNames

/-- Where a kind of complaint is explained. -/
def helpPage (kind : String) : String :=
  "/".intercalate ["https:", "", "errors.pydantic.dev", "2.14", "v", kind]

/-- What is said of a name that is no text. -/
def nameRefusal (field : String) (codes : List Nat) : String :=
  let kind := "string_unicode"
  let shown := String.ofList (Text.Quoted.shortened (Text.Quoted.quotedCodes codes).toList)
  s!"\n{field}\n  {Complaint.unpairedText.text} [type={kind}, input_value={shown}, " ++
    s!"input_type=str]\n    For further information visit {helpPage kind}"

/-- What is said of a user that is refused for its names. -/
def refusal (p : NewUser) : String :=
  let count := p.unpairedNames.length
  let errors := if count = 1 then "error" else "errors"
  s!"{count} validation {errors} for NewUser" ++
    String.join (p.unpairedNames.map fun (field, codes) => nameRefusal field codes)

end NewUser

namespace UpdateProfile

def fields : List String :=
  ["phone", "first_name", "last_name", "middle_name", "gender", "birthdate"]

def ofMembers (members : Members) : Checked UpdateProfile :=
  closed members fields <|
    mk <$> maybe members "phone" (nullable anyString) <*> maybe members "first_name" nameText <*>
      maybe members "last_name" nameText <*> maybe members "middle_name" nameText <*>
      maybe members "gender" (nullable genderName) <*>
      maybe members "birthdate" (nullable timestamp)

/-- The changes as ones to a user. -/
def toUpdateUser (p : UpdateProfile) : UpdateUser :=
  { p with isActive := none, emailVerified := none, lastLoginAt := none }

end UpdateProfile

namespace UpdateUser

def nothing : UpdateUser := ⟨none, none, none, none, none, none, none, none, none⟩

def fields : List String := UpdateProfile.fields ++ ["is_active", "email_verified", "last_login_at"]

def ofMembers (members : Members) : Checked UpdateUser :=
  closed members fields <|
    mk <$> maybe members "phone" (nullable anyString) <*> maybe members "first_name" nameText <*>
      maybe members "last_name" nameText <*> maybe members "middle_name" nameText <*>
      maybe members "gender" (nullable genderName) <*>
      maybe members "birthdate" (nullable timestamp) <*>
      maybe members "is_active" (nullable boolean) <*>
      maybe members "email_verified" (nullable boolean) <*>
      maybe members "last_login_at" (nullable timestamp)

/-- A field with its new value, if it is changed. -/
def field (name : String) (shown : α → Json) (change : Option α) : Option (String × Json) :=
  change.map fun value => (name, shown value)

/-- The fields that are changed, with their new values. -/
def changes (p : UpdateUser) : List (String × Json) :=
  [field "phone" .optionalString p.phone, field "first_name" .optionalString p.firstName,
    field "last_name" .optionalString p.lastName, field "middle_name" .optionalString p.middleName,
    field "gender" (.ofOption fun (g : Gender) => .text g.name) p.gender,
    field "birthdate" .optionalTimestamp p.birthdate, field "is_active" .optionalBool p.isActive,
    field "email_verified" .optionalBool p.emailVerified,
    field "last_login_at" .optionalTimestamp p.lastLoginAt].filterMap id

/-- All fields of a list, those that are not changed being `null`. -/
def toJson (names : List String) (p : UpdateUser) : Json :=
  .record (names.map fun name => (name, (Table.get? p.changes name).getD .null))

end UpdateUser

/-! ## Records that are sent

E-mail addresses, stored passwords and one-time tokens are kept as texts, and have to come as texts.
-/

/-- A user that is sent as a whole. Times that are missing are `now`. -/
def User.ofMembers (now : Timestamp) (fresh : String) (members : Members) : Checked User :=
  let time (name : String) := optional members name timestamp now
  let optionalString (name : String) := optional members name (nullable anyString) none
  User.mk <$> required members "id" integer <*> required members "email" plainText <*>
    (some <$> optional members "email_verified" boolean false) <*> optionalString "phone" <*>
    optional members "phone_verified" boolean false <*>
    (some <$> optional members "is_active" boolean true) <*>
    optionalString "first_name" <*> optionalString "last_name" <*> optionalString "middle_name" <*>
    (some <$> optional members "gender" genderName .undefined) <*>
    optional members "birthdate" (nullable timestamp) none <*> (some <$> time "last_login_at") <*>
    time "created_at" <*> time "updated_at" <*>
    optional members "saga_id" anyString (.text fresh) <*> time "revoke_before"

def User.fields : List String :=
  ["id", "email", "email_verified", "phone", "phone_verified", "is_active", "first_name",
    "last_name", "middle_name", "gender", "birthdate", "last_login_at", "created_at", "updated_at",
    "saga_id", "revoke_before"]

def Identity.ofMembers (fresh : String) (members : Members) : Checked Identity :=
  Identity.mk <$> required members "user_id" integer <*> required members "email" plainText <*>
    optional members "password" (nullable plainText) none <*>
    required members "provider" (choice Provider.all Provider.name) <*>
    optional members "saga_id" anyString (.text fresh)

def Identity.fields : List String := ["user_id", "email", "password", "provider", "saga_id"]

def UserRole.ofMembers (now : Timestamp) (members : Members) : Checked UserRole :=
  UserRole.mk <$> required members "id" integer <*> required members "user_id" integer <*>
    required members "role" roleName <*> optional members "created_at" timestamp now

def UserRole.fields : List String := ["id", "user_id", "role", "created_at"]

def ResetToken.ofMembers (now : Timestamp) (members : Members) : Checked ResetToken :=
  ResetToken.mk <$> required members "token" plainText <*> required members "email" plainText <*>
    required members "token_type" (choice TokenType.all TokenType.name) <*>
    optional members "created_at" timestamp now

def ResetToken.fields : List String := ["token", "email", "token_type", "created_at"]

end Accounts
