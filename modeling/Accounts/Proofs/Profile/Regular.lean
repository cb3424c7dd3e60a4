import Accounts.Proofs.Payload
import Accounts.Proofs.Rows
import Accounts.Proofs.Timestamp.Reading

/-!
# Regular users

A user is regular if every field but the gender holds what its kind admits: flags are there, names
are missing or not empty, and times are ones that their text shows in full. The record of a regular
user is read as this user again, unless the gender is missing, which the reader alone complains
about (`User.IsRegular.readsBack_iff`).

Every change that a call makes keeps a user regular, and whoever is made a user is (`Call.revised`
and `Call.newcomer?` say which changes and users there are). Only one kind of call takes a gender
away.
-/

namespace Accounts

/-- Every field but the gender holds what its kind admits. -/
structure User.IsRegular (u : User) : Prop where
  emailVerified : u.emailVerified ≠ none
  isActive : u.isActive ≠ none
  firstName : u.firstName ≠ some (.text "")
  lastName : u.lastName ≠ some (.text "")
  middleName : u.middleName ≠ some (.text "")
  birthdate : ∀ t, u.birthdate = some t → t.IsShown
  lastLoginAt : ∃ t, u.lastLoginAt = some t ∧ t.IsShown
  createdAt : u.createdAt.IsShown
  updatedAt : u.updatedAt.IsShown
  revokeBefore : u.revokeBefore.IsShown

/-- Whatever the time and the fresh saga id, reading the record that shows a user gives this user
again. -/
def User.ReadsBack (u : User) : Prop :=
  ∃ members, u.toJson = .obj members ∧ ∀ now fresh, User.ofMembers now fresh members = .ok u

/-! ## Reading a record -/

namespace Payload

theorem timestamp_timestamp {t : Timestamp} (h : t.IsShown) :
    timestamp (.timestamp t) = .ok t := by
  unfold Json.timestamp Json.text timestamp
  dsimp only
  rw [h.ofText_text]
  rfl

theorem nullable_optionalString (value : Option JsonString) :
    nullable anyString (.optionalString value) = .ok value := by
  cases value <;> rfl

theorem nullable_optionalTimestamp {t : Option Timestamp}
    (h : ∀ value, t = some value → value.IsShown) :
    nullable timestamp (.optionalTimestamp t) = .ok t := by
  cases t with
  | none => rfl
  | some value =>
      have hread := timestamp_timestamp (h value rfl)
      change (timestamp (.timestamp value)).map some = _
      rw [hread]
      rfl

theorem eq_ok_of_map {α β : Type} {seen : Except Complaint α} {f : α → β} {value : β}
    (h : seen.map f = .ok value) : ∃ read, seen = .ok read ∧ f read = value := by
  cases seen with
  | error complaint => cases h
  | ok read =>
      cases h
      exact ⟨read, rfl, rfl⟩

/-- A name that a form may hold: missing, or a text that is not empty. -/
def IsName : Option JsonString → Prop
  | none => True
  | some (.text name) => name ≠ ""
  | some (.unpaired ..) => False

theorem IsName.ne_empty {name : Option JsonString} (h : IsName name) : name ≠ some (.text "") := by
  rintro rfl
  exact h rfl

theorem isName_of_nameText {value : Json} {name : Option JsonString}
    (h : nameText value = .ok name) : IsName name := by
  unfold nameText nullable at h
  split at h
  · cases h
    trivial
  · obtain ⟨_, hname, rfl⟩ := eq_ok_of_map h
    obtain ⟨text, hread, rfl⟩ := eq_ok_of_map hname
    rintro rfl
    unfold nonEmpty textOf at hread
    cases htext : plainText value with
    | error complaint =>
        rw [htext] at hread
        cases hread
    | ok text =>
        rw [htext] at hread
        change (if text.length < 1 then _ else _ : Except Complaint String) = _ at hread
        split at hread
        · cases hread
        · rename_i hlength
          cases hread
          exact hlength (by decide)

/-- A timestamp that was read is one that its text shows in full. -/
theorem isShown_of_timestamp {value : Json} {t : Timestamp} (h : timestamp value = .ok t) :
    t.IsShown := by
  unfold timestamp at h
  split at h
  · split at h
    · exact Timestamp.isShown_of_ofInt (Timestamp.eq_ok_of_mapError h)
    · cases h
  · exact Timestamp.isShown_of_ofFloat (Timestamp.eq_ok_of_mapError h)
  · exact Timestamp.isShown_of_ofText (Timestamp.eq_ok_of_mapError h)
  · cases h
  · cases h

theorem isShown_of_nullable {value : Json} {t : Timestamp}
    (h : nullable timestamp value = .ok (some t)) : t.IsShown := by
  unfold nullable at h
  split at h
  · cases h
  · obtain ⟨_, hread, hsome⟩ := eq_ok_of_map h
    cases hsome
    exact isShown_of_timestamp hread

/-- What is there of a field that may be left out was read. -/
theorem read_of_maybe {α : Type} {members : Members} {name : String} {read : FieldReader α}
    {value : α} (h : maybe members name read = .ok (some value)) :
    ∃ sent, read sent = .ok value := by
  unfold maybe at h
  split at h
  · rename_i sent _
    obtain ⟨_, hread, hsome⟩ := eq_ok_of_map (eq_ok_of_check h)
    cases hsome
    exact ⟨sent, hread⟩
  · cases h

end Payload

namespace User

open Payload

/-- What the reader makes of the record of a regular user. -/
theorem IsRegular.ofMembers_eq {u : User} (h : u.IsRegular) (now : Timestamp) (fresh : String) :
    ∃ members, u.toJson = .obj members ∧ User.ofMembers now fresh members =
      if u.gender.isSome then .ok u
      else .bad [⟨"gender", .notAmong (Gender.all.map Gender.name)⟩] := by
  refine ⟨_, rfl, ?_⟩
  obtain ⟨id, email, emailVerified, phone, phoneVerified, isActive, firstName, lastName, middleName,
    gender, birthdate, lastLoginAt, createdAt, updatedAt, sagaId, revokeBefore⟩ := u
  obtain ⟨hverified, hactive, -, -, -, hbirthdate, hlogin, hcreated, hupdated, hrevoke⟩ := h
  dsimp only at hverified hactive hbirthdate hlogin hcreated hupdated hrevoke
  obtain ⟨verified, rfl⟩ := Option.ne_none_iff_exists'.mp hverified
  obtain ⟨active, rfl⟩ := Option.ne_none_iff_exists'.mp hactive
  obtain ⟨login, rfl, hlogin⟩ := hlogin
  have hlogin : timestamp (.optionalTimestamp (some login)) = .ok login :=
    timestamp_timestamp hlogin
  simp only [User.ofMembers, Payload.required, Payload.optional, Json.find?, Table.get?,
    List.map_cons, List.map_nil, JsonString.text.injEq, String.reduceEq, if_true, if_false,
    Json.text, anyString, integer, boolean, hlogin, nullable_optionalString,
    nullable_optionalTimestamp hbirthdate, timestamp_timestamp hcreated,
    timestamp_timestamp hupdated, timestamp_timestamp hrevoke]
  cases gender with
  | none => rfl
  | some gender => cases gender <;> rfl

theorem IsRegular.readsBack_iff {u : User} (h : u.IsRegular) :
    u.ReadsBack ↔ u.gender.isSome := by
  constructor
  · rintro ⟨members, hshown, hread⟩
    obtain ⟨others, hothers, hcomplaint⟩ := h.ofMembers_eq (.utc 0) ""
    obtain rfl : members = others := by
      rw [hshown] at hothers
      exact Json.obj.inj hothers
    by_contra hnone
    rw [if_neg hnone, hread] at hcomplaint
    cases hcomplaint
  · intro hsome
    refine ⟨_, rfl, fun now fresh => ?_⟩
    obtain ⟨members, hmembers, hread⟩ := h.ofMembers_eq now fresh
    rw [if_pos hsome] at hread
    obtain rfl := Json.obj.inj hmembers
    exact hread

end User

/-! ## Changes -/

/-- Changes that set no field to what its kind does not admit, but for the gender. -/
structure UpdateUser.IsRegular (p : UpdateUser) : Prop where
  emailVerified : ∀ flag, p.emailVerified = some flag → flag ≠ none
  isActive : ∀ flag, p.isActive = some flag → flag ≠ none
  firstName : ∀ name, p.firstName = some name → name ≠ some (.text "")
  lastName : ∀ name, p.lastName = some name → name ≠ some (.text "")
  middleName : ∀ name, p.middleName = some name → name ≠ some (.text "")
  birthdate : ∀ birthdate, p.birthdate = some birthdate → ∀ t, birthdate = some t → t.IsShown
  lastLoginAt : ∀ login, p.lastLoginAt = some login → ∃ t, login = some t ∧ t.IsShown

/-- The names that are set are ones that a form may hold. -/
structure UpdateUser.HasNames (p : UpdateUser) : Prop where
  firstName : ∀ name, p.firstName = some name → Payload.IsName name
  lastName : ∀ name, p.lastName = some name → Payload.IsName name
  middleName : ∀ name, p.middleName = some name → Payload.IsName name

theorem UpdateUser.isRegular_nothing : nothing.IsRegular :=
  ⟨nofun, nofun, nofun, nofun, nofun, nofun, nofun⟩

/-- A field after a change is the new value, or the old one. -/
theorem getD_of {α : Type} {P : α → Prop} {change : Option α} {value : α}
    (hchange : ∀ new, change = some new → P new) (hvalue : P value) : P (change.getD value) := by
  cases change with
  | none => exact hvalue
  | some new => exact hchange new rfl

theorem User.IsRegular.applyUpdate {u : User} (h : u.IsRegular) {p : UpdateUser}
    (hp : p.IsRegular) {now : Timestamp} (hnow : now.IsShown) :
    (Store.applyUpdate now p u).IsRegular where
  emailVerified := getD_of hp.emailVerified h.emailVerified
  isActive := getD_of hp.isActive h.isActive
  firstName := getD_of hp.firstName h.firstName
  lastName := getD_of hp.lastName h.lastName
  middleName := getD_of hp.middleName h.middleName
  birthdate := getD_of hp.birthdate h.birthdate
  lastLoginAt := getD_of hp.lastLoginAt h.lastLoginAt
  createdAt := h.createdAt
  updatedAt := hnow
  revokeBefore := h.revokeBefore

namespace UpdateProfile

open Payload

/-- What was read of the fields of a change to a profile. -/
structure Reads (members : Members) (p : UpdateProfile) : Prop where
  phone : maybe members "phone" (nullable anyString) = .ok p.phone
  firstName : maybe members "first_name" nameText = .ok p.firstName
  lastName : maybe members "last_name" nameText = .ok p.lastName
  middleName : maybe members "middle_name" nameText = .ok p.middleName
  gender : maybe members "gender" (nullable genderName) = .ok p.gender
  birthdate : maybe members "birthdate" (nullable timestamp) = .ok p.birthdate

open Checked in
theorem reads_of_ofMembers {members : Members} {p : UpdateProfile}
    (h : ofMembers members = .ok p) : p.Reads members := by
  obtain ⟨_, birthdate, h₁, hbirthdate, rfl⟩ := seq_eq_ok (closed_eq_ok h).1
  obtain ⟨_, gender, h₂, hgender, rfl⟩ := seq_eq_ok h₁
  obtain ⟨_, middleName, h₃, hmiddleName, rfl⟩ := seq_eq_ok h₂
  obtain ⟨_, lastName, h₄, hlastName, rfl⟩ := seq_eq_ok h₃
  obtain ⟨_, firstName, h₅, hfirstName, rfl⟩ := seq_eq_ok h₄
  obtain ⟨phone, hphone, rfl⟩ := map_eq_ok h₅
  exact ⟨hphone, hfirstName, hlastName, hmiddleName, hgender, hbirthdate⟩

/-- Changes to a profile that were read set names that a form may hold. -/
theorem hasNames_of_ofMembers {members : Members} {p : UpdateProfile}
    (h : ofMembers members = .ok p) : p.toUpdateUser.HasNames := by
  have hreads := reads_of_ofMembers h
  have hname : ∀ {field change}, maybe members field nameText = .ok change →
      ∀ name, change = some name → IsName name := by
    rintro field _ hread name rfl
    obtain ⟨sent, hsent⟩ := read_of_maybe hread
    exact isName_of_nameText hsent
  exact ⟨hname hreads.firstName, hname hreads.lastName, hname hreads.middleName⟩

/-- Changes to a profile that were read are regular. -/
theorem isRegular_of_ofMembers {members : Members} {p : UpdateProfile}
    (h : ofMembers members = .ok p) : p.toUpdateUser.IsRegular := by
  have hnames := hasNames_of_ofMembers h
  refine ⟨nofun, nofun, fun name hset => (hnames.firstName name hset).ne_empty,
    fun name hset => (hnames.lastName name hset).ne_empty,
    fun name hset => (hnames.middleName name hset).ne_empty, fun birthdate hset t htime => ?_,
    nofun⟩
  obtain ⟨sent, hsent⟩ :=
    read_of_maybe ((reads_of_ofMembers h).birthdate.trans (congrArg _ hset))
  exact isShown_of_nullable (htime ▸ hsent)

end UpdateProfile

namespace Profile

theorem filled_ne_empty (value : Option JsonString) : filled value ≠ some (.text "") := fun h =>
  absurd (Option.filter_eq_some_iff.mp h).2 (by decide)

theorem firstName_ne_empty (p : Profile) : p.firstName ≠ some (.text "") := filled_ne_empty _

theorem lastName_ne_empty (p : Profile) : p.lastName ≠ some (.text "") := by
  cases p <;> exact filled_ne_empty _

/-- A profile fills gaps with names that are not empty. -/
theorem isRegular_merge (p : Profile) {now : Timestamp} (hnow : now.IsShown) (u : User) :
    (p.merge now u).IsRegular := by
  have hname : ∀ {gap : Bool} {name : Option JsonString}, name ≠ some (.text "") →
      ∀ text, (if gap then name.map some else none) = some text → text ≠ some (.text "") := by
    rintro gap name hname text htext rfl
    split at htext
    · obtain ⟨given, hgiven, hsome⟩ := Option.map_eq_some_iff.mp htext
      cases hsome
      exact hname hgiven
    · cases htext
  refine ⟨fun flag hflag => ?_, nofun, hname p.firstName_ne_empty, hname p.lastName_ne_empty, nofun,
    nofun, fun login hlogin => ?_⟩
  · unfold merge at hflag
    dsimp only at hflag
    split at hflag
    · cases hflag
      nofun
    · cases hflag
  · cases hlogin
    exact ⟨now, rfl, hnow⟩

theorem gender_merge (p : Profile) (now : Timestamp) (u : User) :
    (p.merge now u).gender ≠ some none := by
  unfold merge
  dsimp only
  split
  · nofun
  · nofun

end Profile

/-! ## What calls write -/

theorem Timestamp.isShown_utc {micros : Int} (h : inRange micros = true) : (utc micros).IsShown :=
  ⟨h, fun seconds hseconds => by
    cases hseconds
    decide⟩

/-- A new row is regular if the names in it are not empty. -/
theorem Store.isRegular_userRow {p : NewUser} (hfirst : p.firstName ≠ some (.text ""))
    (hlast : p.lastName ≠ some (.text "")) (hmiddle : p.middleName ≠ some (.text ""))
    (hbirthdate : p.birthdate = none) (id : Int) {now : Timestamp} (hnow : now.IsShown)
    (sagaId : JsonString) :
    (userRow id now sagaId p).IsRegular where
  emailVerified := nofun
  isActive := nofun
  firstName := hfirst
  lastName := hlast
  middleName := hmiddle
  birthdate t ht := by
    rw [userRow, hbirthdate] at ht
    cases ht
  lastLoginAt := ⟨now, rfl, hnow⟩
  createdAt := hnow
  updatedAt := hnow
  revokeBefore := hnow

namespace Call

/-- The payload of a call was read from a document. -/
def IsRead : Call → Prop
  | updateUser _ _ payload => ∃ members, UpdateProfile.ofMembers members = .ok payload
  | _ => True

/-- Whoever is made a user is regular, and has a gender. -/
theorem isRegular_of_newcomer? {call : Call} {time id : Int} {sagaId : JsonString} {user : User}
    (h : call.newcomer? time id sagaId = some user) (htime : Timestamp.inRange time = true) :
    user.IsRegular ∧ user.gender ≠ none := by
  have hnow := Timestamp.isShown_utc htime
  have hmissing : (none : Option JsonString) ≠ some (.text "") := (Option.some_ne_none _).symm
  have huserOf : ∀ profile, (SignIn.userOf profile id time sagaId).IsRegular
      ∧ (SignIn.userOf profile id time sagaId).gender ≠ none := fun profile =>
    ⟨Store.isRegular_userRow profile.firstName_ne_empty profile.lastName_ne_empty hmissing rfl id
      hnow sagaId, Option.some_ne_none _⟩
  cases call with
  | createUser payload address =>
      cases h
      exact ⟨Store.isRegular_userRow hmissing hmissing hmissing rfl id hnow sagaId,
        Option.some_ne_none _⟩
  | createOrLink profile address =>
      cases h
      exact huserOf profile
  | signInWithProvider codec providers provider payload =>
      unfold newcomer? at h
      dsimp only at h
      split at h
      · cases h
        exact huserOf _
      · cases h
  | _ => cases h

/-- A change that a call makes keeps a user regular. -/
theorem isRegular_revised {call : Call} (hread : call.IsRead) {time : Int}
    (htime : Timestamp.inRange time = true) {before : User} (h : before.IsRegular) :
    (call.revised time before).IsRegular := by
  have hnow := Timestamp.isShown_utc htime
  have hrevoked : (User.revokedAt time before).IsRegular :=
    { h with updatedAt := hnow, revokeBefore := hnow }
  have hfilled : ∀ profile, (SignIn.filledBy profile time before).IsRegular := fun profile =>
    h.applyUpdate (profile.isRegular_merge hnow before) hnow
  have hinactive : UpdateUser.IsRegular { UpdateUser.nothing with isActive := some (some false) } :=
    { UpdateUser.isRegular_nothing with
      isActive := fun _ hflag => by
        cases hflag
        nofun }
  have hverified :
      UpdateUser.IsRegular { UpdateUser.nothing with emailVerified := some (some true) } :=
    { UpdateUser.isRegular_nothing with
      emailVerified := fun _ hflag => by
        cases hflag
        nofun }
  cases call with
  | updateUser caller id payload =>
      obtain ⟨members, hmembers⟩ := hread
      exact h.applyUpdate (UpdateProfile.isRegular_of_ofMembers hmembers) hnow
  | deactivateUser => exact h.applyUpdate hinactive hnow
  | revokeTokens => exact hrevoked
  | changePassword => exact hrevoked
  | applyPasswordReset => exact hrevoked
  | applyEmailVerification => exact h.applyUpdate hverified hnow
  | signInWithPassword => exact { h with lastLoginAt := ⟨_, rfl, hnow⟩, updatedAt := hnow }
  | createOrLink profile address => exact hfilled profile
  | signInWithProvider codec providers provider payload =>
      cases hfetched : SignIn.fetched providers provider payload.token with
      | error failure =>
          simp only [revised, hfetched]
          exact h
      | ok profile =>
          simp only [revised, hfetched]
          exact hfilled profile
  | _ => exact h

/-- Only an update that says so takes a gender away. -/
theorem gender_revised {call : Call} {time : Int} {before : User}
    (h : (call.revised time before).gender = none) :
    before.gender = none ∨ ∃ caller id payload, call = .updateUser caller id payload
      ∧ payload.gender = some none := by
  have hfilled : ∀ profile, (SignIn.filledBy profile time before).gender = none →
      before.gender = none := by
    intro profile hgender
    by_contra hsome
    exact getD_of (P := (· ≠ none)) (fun new hnew hnone =>
      profile.gender_merge (.utc time) before (hnone ▸ hnew)) hsome hgender
  cases call with
  | updateUser caller id payload =>
      have hset : payload.gender.getD before.gender = none := h
      cases hchange : payload.gender with
      | none =>
          rw [hchange] at hset
          exact Or.inl hset
      | some gender =>
          rw [hchange] at hset
          exact Or.inr ⟨caller, id, payload, rfl, hchange.trans (congrArg some hset)⟩
  | createOrLink profile address => exact Or.inl (hfilled profile h)
  | signInWithProvider codec providers provider payload =>
      cases hfetched : SignIn.fetched providers provider payload.token with
      | error failure =>
          simp only [revised, hfetched] at h
          exact Or.inl h
      | ok profile =>
          simp only [revised, hfetched] at h
          exact Or.inl (hfilled profile h)
  | _ => exact Or.inl h

end Call

end Accounts
