import Accounts.Proofs.Payload.Changes

/-!
# Merging fills gaps

Merging a profile into a user leaves what is known, and fills what is not: a missing name takes the
first text of the profile that is not empty, an undefined gender the one that the profile tells, and
an address that is not verified becomes so if the profile says it is (`Profile.merged_eq`). So there
is nothing left to fill afterwards, nor is there in a user who was made from the same profile
(`Profile.merging_fills_gaps`).
-/

namespace Accounts

/-- A user with changes applied. -/
def UpdateUser.appliedTo (p : UpdateUser) (u : User) : User where
  id := u.id
  email := u.email
  emailVerified := p.emailVerified.getD u.emailVerified
  phone := p.phone.getD u.phone
  phoneVerified := u.phoneVerified
  isActive := p.isActive.getD u.isActive
  firstName := p.firstName.getD u.firstName
  lastName := p.lastName.getD u.lastName
  middleName := p.middleName.getD u.middleName
  gender := p.gender.getD u.gender
  birthdate := p.birthdate.getD u.birthdate
  lastLoginAt := p.lastLoginAt.getD u.lastLoginAt
  createdAt := u.createdAt
  updatedAt := u.updatedAt
  sagaId := u.sagaId
  revokeBefore := u.revokeBefore

/-- The store applies changes, and notes the time. -/
theorem Store.applyUpdate_eq (now : Timestamp) (p : UpdateUser) (u : User) :
    applyUpdate now p u = { p.appliedTo u with updatedAt := now } := rfl

namespace Profile

/-- A user after a profile was merged into it. -/
def merged (p : Profile) (now : Timestamp) (u : User) : User := (p.merge now u).appliedTo u

/-- The texts that a profile has for the first name, in the order in which they count. -/
def firstNames : Profile → List (Option JsonString)
  | google _ _ name givenName .. => [givenName, name]
  | facebook _ _ firstName .. => [firstName]

/-- The texts that a profile has for the last name. -/
def lastNames : Profile → List (Option JsonString)
  | google _ _ _ _ familyName .. => [familyName]
  | facebook _ _ _ lastName .. => [lastName]

/-- The first of several strings that is there and not empty. -/
def firstFilled (strings : List (Option JsonString)) : Option JsonString :=
  strings.reduceOption.find? fun string => string ≠ .text ""

theorem firstFilled_cons (string : Option JsonString) (rest : List (Option JsonString)) :
    firstFilled (string :: rest) = (filled string).or (firstFilled rest) := by
  unfold firstFilled filled
  cases string with
  | none => rfl
  | some string =>
      have hcons : (some string :: rest).reduceOption = string :: rest.reduceOption := rfl
      rw [hcons, List.find?_cons, Option.filter_some]
      by_cases hempty : string = .text ""
      · simp [hempty]
      · simp [hempty]

theorem firstName_eq (p : Profile) : p.firstName = firstFilled p.firstNames := by
  cases p with
  | google id email name givenName familyName picture verified =>
      rw [firstNames, firstFilled_cons, firstFilled_cons, firstName, givenFirstName]
      cases hgiven : filled givenName with
      | none => exact (Option.or_none ..).symm
      | some text =>
          have hfilled : (text != .text "") = true := (Option.filter_eq_some_iff.mp hgiven).2
          rw [Option.some_or, Option.some_or, filled, Option.filter_some, hfilled, if_pos rfl]
  | facebook id email first last name gender =>
      rw [firstNames, firstFilled_cons]
      exact (Option.or_none ..).symm

theorem lastName_eq (p : Profile) : p.lastName = firstFilled p.lastNames := by
  cases p <;>
    · rw [lastNames, firstFilled_cons]
      exact (Option.or_none ..).symm

/-- What merging makes of a user. -/
theorem merged_eq (p : Profile) (now : Timestamp) (u : User) :
    p.merged now u =
      { u with
        firstName := u.firstName.or p.firstName
        lastName := u.lastName.or p.lastName
        gender := if u.gender = some .undefined then some p.gender else u.gender
        emailVerified := if p.verifies then some true else u.emailVerified
        lastLoginAt := some now } := by
  have hname : ∀ gap given : Option JsonString,
      (if gap.isNone then given.map some else none).getD gap = gap.or given := by
    rintro (_ | gap) (_ | given) <;> rfl
  have hgender : ∀ gap : Option Gender,
      (if gap = some .undefined ∧ p.gender ≠ .undefined then some (some p.gender) else none).getD
        gap = if gap = some .undefined then some p.gender else gap := by
    intro gap
    by_cases hundefined : gap = some .undefined
    · by_cases hknown : p.gender = .undefined
      · simp [hundefined, hknown]
      · simp [hundefined, hknown]
    · simp [hundefined]
  have hverified : ∀ flag : Option Bool,
      (if flag ≠ some true ∧ p.verifies then some (some true) else none).getD flag =
        if p.verifies then some true else flag := by
    intro flag
    by_cases hverifies : p.verifies = true
    · by_cases hflag : flag = some true <;> simp [hverifies, hflag]
    · simp [hverifies]
  unfold merged merge UpdateUser.appliedTo UpdateUser.nothing
  dsimp only
  rw [hname, hname, hgender, hverified]
  rfl

/-- There is nothing left to fill. -/
structure Filled (p : Profile) (u : User) : Prop where
  firstName : u.firstName.or p.firstName = u.firstName
  lastName : u.lastName.or p.lastName = u.lastName
  gender : u.gender = some .undefined → p.gender = .undefined
  emailVerified : p.verifies → u.emailVerified = some true

/-- Where there is nothing left to fill, merging notes the login and nothing else. -/
theorem Filled.merged_eq {p : Profile} {u : User} (h : p.Filled u) (now : Timestamp) :
    p.merged now u = { u with lastLoginAt := some now } := by
  have hgender : (if u.gender = some .undefined then some p.gender else u.gender) = u.gender := by
    split
    · rename_i hundefined
      rw [h.gender hundefined, hundefined]
    · rfl
  have hverified : (if p.verifies then some true else u.emailVerified) = u.emailVerified := by
    split
    · rename_i hverifies
      rw [h.emailVerified hverifies]
    · rfl
  rw [Profile.merged_eq, h.firstName, h.lastName, hgender, hverified]

/-- Merging leaves nothing to fill. -/
theorem filled_merged (p : Profile) (now : Timestamp) (u : User) : p.Filled (p.merged now u) := by
  rw [merged_eq]
  refine ⟨?_, ?_, fun hundefined => ?_, fun hverifies => if_pos hverifies⟩
  · dsimp only
    rw [Option.or_assoc, Option.or_self]
  · dsimp only
    rw [Option.or_assoc, Option.or_self]
  · dsimp only at hundefined
    split at hundefined
    · exact Option.some.inj hundefined
    · rename_i hknown
      exact absurd hundefined hknown

/-- Nor does making a user from the profile. -/
theorem filled_userRow {p : Profile} {new : NewUser} (hnew : p.newUser.checked = .ok new) (id : Int)
    (now : Timestamp) (sagaId : JsonString) : p.Filled (Store.userRow id now sagaId new) := by
  obtain ⟨_, _, haddressed, -, rfl⟩ := Payload.Checked.seq_eq_ok hnew
  obtain ⟨email, -, rfl⟩ := Payload.Checked.map_eq_ok haddressed
  refine ⟨Option.or_self .., Option.or_self .., Option.some.inj, fun hverifies => ?_⟩
  cases p with
  | google id email name givenName familyName picture verified => exact congrArg some hverifies
  | facebook => cases hverifies

/-- A gender that is told is the name of one, in whatever case. -/
theorem gender_spec {p : Profile} (h : p.gender ≠ .undefined) :
    ∃ id first last name text, p = .facebook id p.email first last name (some (.text text))
      ∧ String.ofList (Text.lower text.toList) = p.gender.name := by
  cases p with
  | google => exact absurd rfl h
  | facebook id email first last name gender =>
      rcases gender with _ | text | ⟨codes, hcodes⟩
      · exact absurd rfl h
      case some.unpaired => exact absurd rfl h
      case some.text =>
          refine ⟨id, first, last, name, text, rfl, ?_⟩
          change Gender.lenient (some text) ≠ .undefined at h
          change _ = (Gender.lenient (some text)).name
          unfold Gender.lenient at h ⊢
          dsimp only at h ⊢
          cases hname : Gender.ofName? (String.ofList (Text.lower text.toList)) with
          | none =>
              rw [hname] at h
              exact absurd rfl h
          | some known =>
              have hfound := List.find?_some (show Gender.all.find? _ = some known from hname)
              exact (beq_iff_eq.mp hfound).symm

theorem isName_of_isNamed {name : Option JsonString} (hempty : name ≠ some (.text ""))
    (hpaired : ∀ codes hcodes, name ≠ some (.unpaired codes hcodes)) : Payload.IsName name := by
  rcases name with _ | text | ⟨codes, hcodes⟩
  · trivial
  · exact fun h => hempty (congrArg (some ∘ JsonString.text) h)
  · exact hpaired codes hcodes rfl

/-- A profile whose names are texts fills gaps with names that a form may hold. -/
theorem hasNames_merge {p : Profile} (h : p.newUser.IsNamed) (now : Timestamp) (u : User) :
    (p.merge now u).HasNames := by
  have hname : ∀ {gap : Bool} {given : Option JsonString}, Payload.IsName given →
      ∀ name, (if gap then given.map some else none) = some name → Payload.IsName name := by
    rintro gap given hgiven name hset
    split at hset
    · obtain ⟨value, rfl, rfl⟩ := Option.map_eq_some_iff.mp hset
      exact hgiven
    · cases hset
  exact ⟨hname (isName_of_isNamed p.firstName_ne_empty h.firstName),
    hname (isName_of_isNamed p.lastName_ne_empty h.lastName), nofun⟩

/-- **Merging fills gaps only.** Names that are there stay, and one that is missing takes the first
text that the profile has for it and that is not empty. The gender changes only if it was undefined
and a Facebook profile tells a known one, in whatever case. An address that was verified stays so,
and one that was not becomes so only by a Google profile that says it is. The time of the login is
the present one, and nothing else changes. Merging the profile once more notes the login and nothing
else; and so does merging it into a user who was made from it. This can be done exactly if the names
in the profile are texts, and then the update that merges it is one that its own check takes. -/
theorem merging_fills_gaps (p : Profile) (hemail : Email.IsAddress p.email) (now : Timestamp)
    (hnow : now.IsShown) (u : User) :
    let after := p.merged now u
    after = { u with
        firstName := u.firstName.or (firstFilled p.firstNames)
        lastName := u.lastName.or (firstFilled p.lastNames)
        gender := after.gender
        emailVerified := after.emailVerified
        lastLoginAt := some now }
      ∧ (after.gender = u.gender
        ∨ u.gender = some .undefined ∧ ∃ known ≠ Gender.undefined, after.gender = some known
          ∧ ∃ id first last name text, p = .facebook id p.email first last name (some (.text text))
            ∧ String.ofList (Text.lower text.toList) = known.name)
      ∧ (after.emailVerified = u.emailVerified
        ∨ u.emailVerified ≠ some true ∧ after.emailVerified = some true
          ∧ ∃ id name given family picture, p = .google id p.email name given family picture true)
      ∧ (∀ later, p.merged later after = { after with lastLoginAt := some later })
      ∧ (∀ new, p.newUser.checked = .ok new → ∀ id created sagaId,
        p.merged now (Store.userRow id created sagaId new) =
          { Store.userRow id created sagaId new with lastLoginAt := some now })
      ∧ ((∃ new, p.newUser.checked = .ok new) ↔ p.newUser.IsNamed)
      ∧ (p.newUser.IsNamed →
        UpdateUser.ofMembers (p.merge now u).members = .ok (p.merge now u)) := by
  intro after
  have hafter : after = _ := p.merged_eq now u
  refine ⟨?_, ?_, ?_, (p.filled_merged now u).merged_eq,
    fun new hnew id created sagaId => (filled_userRow hnew id created sagaId).merged_eq now,
    ⟨fun ⟨new, hnew⟩ => NewUser.isNamed_of_checked hnew,
      fun hnamed => ⟨_, NewUser.checked_of_canonical hemail.canonical hnamed⟩⟩,
    fun hnamed =>
      UpdateUser.ofMembers_members (p.isRegular_merge hnow u) (hasNames_merge hnamed now u)⟩
  · rw [← firstName_eq, ← lastName_eq, hafter]
  · by_cases hundefined : u.gender = some .undefined
    · by_cases hknown : p.gender = .undefined
      · left
        rw [hafter]
        dsimp only
        rw [if_pos hundefined, hknown, hundefined]
      · right
        refine ⟨hundefined, p.gender, hknown, ?_, gender_spec hknown⟩
        rw [hafter]
        exact if_pos hundefined
    · left
      rw [hafter]
      exact if_neg hundefined
  · by_cases hsame : after.emailVerified = u.emailVerified
    · exact Or.inl hsame
    · right
      have hverified : after.emailVerified = if p.verifies then some true else u.emailVerified := by
        rw [hafter]
      have hverifies : p.verifies = true := by
        by_contra hno
        exact hsame (hverified.trans (if_neg hno))
      rw [if_pos hverifies] at hverified
      refine ⟨fun hold => hsame (hverified.trans hold.symm), hverified, ?_⟩
      cases p with
      | google id email name given family picture verified =>
          obtain rfl : verified = true := hverifies
          exact ⟨id, name, given, family, picture, rfl⟩
      | facebook => cases hverifies

/-- Ann, of whom no more is known than her first name, comes by Facebook. -/
theorem merging_fills_gaps_of_facebook :
    let p := Profile.facebook (.text "7") "ann@example.com" (some (.text "Anna"))
      (some (.text "Lee")) none (some (.text "FEMALE"))
    let now := Timestamp.utc 0
    let u : User := Store.userRow 1 now (.text "s")
      { NewUser.bare "ann@example.com" none with firstName := some (.text "Ann") }
    Email.IsAddress p.email ∧ now.IsShown
      ∧ p.merged now u = { u with lastName := some (.text "Lee"), gender := some .female }
      ∧ p.merged now (p.merged now u) = p.merged now u := by
  intro p now u
  have hemail : Email.IsAddress p.email := Email.isAddress_plain
  have hnow : now.IsShown := Timestamp.isShown_utc (by decide)
  obtain ⟨-, -, -, hagain, -⟩ := merging_fills_gaps p hemail now hnow u
  exact ⟨hemail, hnow, by decide +kernel, hagain now⟩

end Profile

end Accounts
