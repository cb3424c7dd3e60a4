import Accounts.Http.Url
import Accounts.Profile
import Accounts.Service.Credentials
import Accounts.SessionToken.Codec

/-!
# Signing in

Every way of signing in ends with a session token for an e-mail address. With a password, the
address has to be verified. With another provider's token, the provider is asked for a profile; a
person who signs in through several providers keeps one user with one identity for each.
-/

namespace Accounts.SignIn

open Op Users

/-- Where the other providers are, and what they answer. -/
structure Providers where
  googleUrl : String
  facebookUrl : String
  /-- How deep an answer may be nested. -/
  depth : Json.Depth
  reply : ProviderRequest → ProviderReply

/-- The fields of a profile that Facebook is asked for. -/
def facebookFields : String := "first_name,last_name,gender,email,name"

/-- The fields of a query as strings, in order. -/
def sortedParams (fields : List (List Char × List Char)) : List (String × String) :=
  (fields.map fun (name, value) => (String.ofList name, String.ofList value)).mergeSort
    fun a b => a.1 < b.1 || (a.1 == b.1 && a.2 ≤ b.2)

/-- The longest query that an address takes. -/
def maxQueryLength : Nat := 65536

/-- The request for a profile. Google takes the token in a header, which holds ASCII text only;
Facebook takes it in the query, in place of whatever query its address has. -/
def profileRequest (providers : Providers) (provider : Provider) (token : String) :
    Except Crash ProviderRequest :=
  match provider with
  | .facebook =>
    let query := Http.queryText [("fields", facebookFields), ("access_token", token)]
    if query.length ≤ maxQueryLength then
      let target := Http.Url.target providers.facebookUrl.toList
      .ok ⟨"GET", String.ofList target.base,
        [("access_token", token), ("fields", facebookFields)], none⟩
    else .error .address
  | _ =>
    if token.toList.all (·.toNat < 128) then
      let target := Http.Url.target providers.googleUrl.toList
      .ok ⟨"GET", String.ofList target.base, sortedParams target.query, some s!"Bearer {token}"⟩
    else .error .headerEncoding

/-- The profile in what a provider answered. -/
def profileOfReply (depth : Json.Depth) (provider : Provider) :
    ProviderReply → Except Failure Profile
  | .timedOut => .error (.service (.providerFailed provider .timedOut))
  | .failed message => .error (.service (.providerFailed provider (.transport message)))
  | .response status body =>
    if status ≠ 200 then .error (.service (.providerFailed provider (.status status)))
    else
      match Json.parseOctets depth body with
      | .error .malformed => .error (.service (.providerFailed provider .unreadable))
      | .error .tooDeep => .error (.crash .tooDeep)
      | .ok value =>
        match Profile.ofJson provider value with
        | .ok profile => .ok profile
        | .bad _ => .error (.service (.providerFailed provider .unreadable))

/-- Asks a provider for the profile behind a token. -/
def fetchProfile (providers : Providers) (provider : Provider) (token : String) : Op Profile := do
  match profileRequest providers provider token with
  | .error fault => crash fault
  | .ok request =>
    modify fun w => { w with requests := w.requests ++ [request] }
    ofResult (profileOfReply providers.depth provider (providers.reply request))

def mint (codec : SessionToken.Codec) (email : String) : Op String :=
  match codec.encode? email with
  | some token => pure token
  | none => fail (.tokenEncoding email)

def withPassword (codec : SessionToken.Codec) (payload : EmailIdentity) : Op String := do
  let email ← withSlot do
    match ← read (·.findIdentity payload.email .email) with
    | none => fail (.unauthenticated .credentials)
    | some identity =>
      if !(← Credentials.isPassword identity.password payload.password) then
        fail (.unauthenticated .credentials)
      let now ← now
      let _ ← write (·.updateUser now identity.userId
        { UpdateUser.nothing with lastLoginAt := some (some now) })
      return identity.email
  mint codec email

/-- What a profile came to: its identity was there, it was linked to a user, or a user was made. -/
inductive Reconciled where
  | returning
  | linked
  | created (userId : Int)
  deriving DecidableEq, Repr

/-- Links a profile to the user who has its e-mail address. -/
def link (profile : Profile) (user : User) : Op Reconciled := do
  let now ← now
  let _ ← write (·.updateUser now user.id (profile.merge now user))
  let sagaId ← freshSagaId
  let _ ← write (·.createIdentity ⟨user.id, profile.email, none, profile.provider, sagaId⟩)
  return .linked

def createFrom (profile : Profile) : Op Reconciled := do
  let newUser ← checkedUser profile.newUser
  let sagaId ← sagaIdOr newUser.sagaId
  let now ← now
  let user ← write (·.createUser now sagaId newUser)
  let _ ← write (·.createIdentity ⟨user.id, profile.email, none, profile.provider, sagaId⟩)
  let _ ← put (·.createRole now ⟨user.id, .user⟩)
  return .created user.id

/-- Finds the user of a profile, or makes one. -/
def reconcile (profile : Profile) : Op Reconciled := do
  if ← read (·.identityExists profile.email profile.provider) then return .returning
  match ← read (·.findUserByEmail profile.email) with
  | some user => link profile user
  | none => createFrom profile

/-- Brings a profile together with the stored users; answers its e-mail address. -/
def createOrLink (profile : Profile) : Op String := do
  match ← withSlot (reconcile profile) with
  | .created userId => invalidateRoles userId
  | _ => pure ()
  return profile.email

def withProvider (codec : SessionToken.Codec) (providers : Providers) (provider : Provider)
    (payload : ProviderOauth) : Op String := do
  let profile ← fetchProfile providers provider payload.token
  let email ← createOrLink profile
  mint codec email

end Accounts.SignIn
