import Accounts.Payload.Forms

/-!
# The forms by name

Every form and record that can be sent, with what checking a payload against it shows: the value
with all its fields, the text that is safe to log, and for changes the fields that are changed.
-/

namespace Accounts.Payload

/-- What a checked payload shows of itself. -/
structure Inspection where
  value : Json
  text : Option String
  changes : Option (List String)

/-- A form by name. `inspect` takes the present time and a fresh saga id. -/
structure Form where
  name : String
  fields : List String
  inspect : Timestamp → String → Members → Checked Inspection

namespace Form

def plain (name : String) (fields : List String) (check : Members → Checked α) (shown : α → Json) :
    Form :=
  ⟨name, fields, fun _ _ members => (fun p => ⟨shown p, none, none⟩) <$> check members⟩

def secret (name : String) (fields : List String) (check : Members → Checked α)
    (shown : String → α → Json) (text : String → α → String) : Form :=
  ⟨name, fields, fun _ fresh members =>
    (fun p => ⟨shown fresh p, some (text fresh p), none⟩) <$> check members⟩

def changing (name : String) (fields : List String) (check : Members → Checked α)
    (changes : α → UpdateUser) : Form :=
  ⟨name, fields, fun _ _ members =>
    (fun p => ⟨(changes p).toJson fields, none, some ((changes p).changes.map (·.1))⟩) <$>
      check members⟩

def all : List Form :=
  [secret "NewIdentity" NewIdentity.fields NewIdentity.ofMembers NewIdentity.toJson
      NewIdentity.text,
    secret "EmailIdentity" EmailIdentity.fields EmailIdentity.ofMembers
      (fun _ => EmailIdentity.toJson) (fun _ => EmailIdentity.text),
    secret "ChangeIdentityPassword" ChangeIdentityPassword.fields ChangeIdentityPassword.ofMembers
      (fun _ => ChangeIdentityPassword.toJson) (fun _ => ChangeIdentityPassword.text),
    secret "ResetApply" ResetApply.fields ResetApply.ofMembers (fun _ => ResetApply.toJson)
      (fun _ => ResetApply.text),
    plain "ProviderOauth" ProviderOauth.fields ProviderOauth.ofMembers ProviderOauth.toJson,
    plain "ResetRequest" ResetRequest.fields ResetRequest.ofMembers ResetRequest.toJson,
    plain "EmailVerifyApply" EmailVerifyApply.fields EmailVerifyApply.ofMembers
      EmailVerifyApply.toJson,
    plain "NewUserRole" NewUserRole.fields NewUserRole.ofMembers NewUserRole.toJson,
    changing "UpdateUser" UpdateUser.fields UpdateUser.ofMembers id,
    changing "UpdateProfile" UpdateProfile.fields UpdateProfile.ofMembers
      UpdateProfile.toUpdateUser,
    ⟨"NewUser", NewUser.fields, fun _ fresh members =>
      (fun p => ⟨p.toJson fresh, none, none⟩) <$> NewUser.ofMembers members⟩,
    ⟨"User", User.fields, fun now fresh members =>
      (fun p => ⟨p.toJson, none, none⟩) <$> User.ofMembers now fresh members⟩,
    ⟨"Identity", Identity.fields, fun _ fresh members =>
      (fun p => ⟨p.toJson, none, none⟩) <$> Identity.ofMembers fresh members⟩,
    ⟨"UserRole", UserRole.fields, fun now _ members =>
      (fun p => ⟨p.toJson, none, none⟩) <$> UserRole.ofMembers now members⟩,
    ⟨"ResetToken", ResetToken.fields, fun now _ members =>
      (fun p => ⟨p.toJson, none, none⟩) <$> ResetToken.ofMembers now members⟩]

def ofName? (name : String) : Option Form := all.find? (·.name == name)

end Form

end Accounts.Payload
