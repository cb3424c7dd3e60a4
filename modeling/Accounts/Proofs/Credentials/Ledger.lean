import Mathlib.Logic.Function.Basic
import Accounts.Proofs.History

/-!
# The ledger of passwords

To those who sign in with a password, the four tables are a ledger: for every address the password
that was set last, and whether the address was verified. Signing up makes an entry, verification
marks it, and changing or resetting a password replaces the password in it; nothing else writes to
the ledger. The ledger of a run is read off its history alone (`Ledger.ofHistory`).

The store describes the same by identities: an entry stands for an identity with the stored form of
the password, under one provider before the verification and under another one behind it
(`Ledger.Describes`). Every commit keeps the two in step (`Ledger.Describes.book`), so signing in
goes as the ledger says (`credentials_refine`).
-/

namespace Accounts

open Op
open Text (codesOf)

/-- What is known of an address: the password that was set last, and whether the address was
verified. -/
structure Credential where
  password : String
  verified : Bool
  deriving DecidableEq, Repr

/-- The provider of the identity that an entry stands for. -/
def Credential.provider (credential : Credential) : Provider :=
  if credential.verified then .email else .unverifiedEmail

/-- Credentials by address. -/
abbrev Ledger := String → Option Credential

namespace Ledger

/-- Changes the entry of an address, if it has one. -/
def revise (ledger : Ledger) (email : String) (f : Credential → Credential) : Ledger :=
  Function.update ledger email ((ledger email).map f)

/-- Books a call that was served. -/
def book (ledger : Ledger) : Served → Ledger
  | ⟨.createUser payload _, _, .ok _⟩ =>
    Function.update ledger payload.email (some ⟨payload.password, false⟩)
  | ⟨.applyEmailVerification _ _, _, .ok user⟩ =>
    ledger.revise (User.email user) ({ · with verified := true })
  | ⟨.changePassword _ payload, _, .ok user⟩ =>
    ledger.revise (User.email user) ({ · with password := payload.newPassword })
  | ⟨.applyPasswordReset _ payload, _, .ok user⟩ =>
    ledger.revise (User.email user) ({ · with password := payload.password })
  | _ => ledger

/-- The ledger of what was served. -/
def ofHistory (history : List Served) : Ledger := history.foldl book fun _ => none

theorem ofHistory_concat (history : List Served) (served : Served) :
    ofHistory (history ++ [served]) = (ofHistory history).book served := by
  rw [ofHistory, List.foldl_append]
  rfl

end Ledger

/-! ## What the store has of it -/

namespace Store

/-- What the store has for an address is as an entry says. -/
def Keeps (s : Store) (email : String) : Option Credential → Prop
  | none => s.identities.get? (email, .email) = none
    ∧ s.identities.get? (email, .unverifiedEmail) = none
  | some credential => ∃ identity,
    s.identities.get? (email, credential.provider) = some identity
      ∧ identity.HasPassword credential.password

/-- Two stores have the same passwords for an address. -/
structure SamePasswords (email : String) (s s' : Store) : Prop where
  verified : s'.identities.get? (email, .email) = s.identities.get? (email, .email)
  unverified :
    s'.identities.get? (email, .unverifiedEmail) = s.identities.get? (email, .unverifiedEmail)

variable {s s' : Store} {email : String}

theorem SamePasswords.keeps (h : SamePasswords email s s') {entry : Option Credential}
    (hkeeps : s.Keeps email entry) : s'.Keeps email entry := by
  cases entry with
  | none => exact ⟨h.verified.trans hkeeps.1, h.unverified.trans hkeeps.2⟩
  | some credential =>
      obtain ⟨identity, hget, hpassword⟩ := hkeeps
      refine ⟨identity, ?_, hpassword⟩
      rw [← hget]
      unfold Credential.provider
      split
      · exact h.verified
      · exact h.unverified

/-- Putting an identity leaves the passwords of other addresses alone. -/
theorem samePasswords_putIdentity {identity : Identity} (hne : identity.email ≠ email) :
    SamePasswords email s (s.putIdentity identity) where
  verified := Table.get?_put_of_ne _ _ fun hkey => hne (Prod.mk.inj hkey).1
  unverified := Table.get?_put_of_ne _ _ fun hkey => hne (Prod.mk.inj hkey).1

theorem samePasswords_verifyIdentity {identity : Identity} (hne : identity.email ≠ email) :
    SamePasswords email s (s.verifyIdentity identity) := by
  have hother : ∀ provider, (s.verifyIdentity identity).identities.get? (email, provider) =
      s.identities.get? (email, provider) :=
    (Commit.sameAt_verifyIdentity hne).identities
  exact ⟨hother .email, hother .unverifiedEmail⟩

/-- An identity behind a verification stands for a verified entry. -/
theorem Keeps.eq_verified (hs : s.Sound) {entry : Option Credential} (h : s.Keeps email entry)
    {identity : Identity} (hget : s.identities.get? (email, .email) = some identity) :
    ∃ password, entry = some ⟨password, true⟩ ∧ identity.HasPassword password := by
  cases entry with
  | none =>
      rw [h.1] at hget
      cases hget
  | some credential =>
      obtain ⟨found, hfound, hpassword⟩ := h
      obtain ⟨password, verified⟩ := credential
      cases verified with
      | true =>
          have hsame : s.identities.get? (email, .email) = some found := hfound
          rw [hget, Option.some_inj] at hsame
          exact ⟨password, rfl, hsame ▸ hpassword⟩
      | false =>
          have hnone := hs.identity_exclusive hget
          rw [show s.identities.get? (email, .unverifiedEmail) = some found from hfound] at hnone
          cases hnone

/-- An identity before its verification stands for an entry that is not verified. -/
theorem Keeps.eq_unverified (hs : s.Sound) {entry : Option Credential} (h : s.Keeps email entry)
    {identity : Identity} (hget : s.identities.get? (email, .unverifiedEmail) = some identity) :
    ∃ password, entry = some ⟨password, false⟩ ∧ identity.HasPassword password := by
  cases entry with
  | none =>
      rw [h.2] at hget
      cases hget
  | some credential =>
      obtain ⟨found, hfound, hpassword⟩ := h
      obtain ⟨password, verified⟩ := credential
      cases verified with
      | true =>
          have hnone := hs.identity_exclusive
            (show s.identities.get? (email, .email) = some found from hfound)
          rw [hget] at hnone
          cases hnone
      | false =>
          have hsame : s.identities.get? (email, .unverifiedEmail) = some found := hfound
          rw [hget, Option.some_inj] at hsame
          exact ⟨password, rfl, hsame ▸ hpassword⟩

end Store

/-! ## Commits and the ledger -/

section Commits

open Store Commit

variable {s : Store} {commit : Commit}

/-- A quiet commit leaves all passwords alone. -/
theorem Commit.IsQuiet.samePasswords (h : commit.IsQuiet) (email : String) :
    SamePasswords email s (commit.apply s) :=
  ⟨h.identities_apply s email (Or.inl rfl), h.identities_apply s email (Or.inr rfl)⟩

/-- A call that failed leaves all passwords alone. -/
theorem Call.Failed.samePasswords {w : World} {call : Call} (h : call.Failed w commit)
    (email : String) : SamePasswords email w.store (commit.apply w.store) := by
  have hspent : ∀ {token tokenType}, Credentials.Spends w.store token tokenType commit →
      SamePasswords email w.store (commit.apply w.store) := by
    rintro token tokenType (rfl | ⟨row, -, rfl⟩) <;> exact ⟨rfl, rfl⟩
  cases call with
  | applyPasswordReset life payload => exact hspent (Credentials.Wastes.spends h)
  | applyEmailVerification life payload => exact hspent (Credentials.Wastes.spends h)
  | _ => exact Commit.IsQuiet.samePasswords h email

/-- What an identity with another password was before: behind its verification, with the address
of its user. -/
theorem Commit.Repasswords.spec (hs : s.Sound) {before : User} {identity : Identity}
    (h : Repasswords s before identity) :
    identity.provider = .email
      ∧ ∃ old, s.identities.get? (before.email, .email) = some old := by
  obtain ⟨old, stored, hold, rfl, -⟩ := h.found
  exact ⟨(Prod.mk.inj (hs.identity_key hold)).2.symm, old, h.email ▸ hold⟩

end Commits

namespace Ledger

open Store

variable {ledger : Ledger} {s s' : Store}

/-- The ledger has an entry where the store has a password, and it is that password. -/
def Describes (ledger : Ledger) (s : Store) : Prop := ∀ email, s.Keeps email (ledger email)

theorem Describes.of_same (h : ledger.Describes s)
    (hsame : ∀ email, SamePasswords email s s') : ledger.Describes s' :=
  fun email => (hsame email).keeps (h email)

/-- An entry is written on both sides. -/
theorem Describes.update (h : ledger.Describes s) {email : String} {entry : Option Credential}
    (hhere : s'.Keeps email entry) (hothers : ∀ other ≠ email, SamePasswords other s s') :
    Describes (Function.update ledger email entry) s' := by
  intro other
  by_cases hother : other = email
  · subst hother
    rw [Function.update_self]
    exact hhere
  · rw [Function.update_of_ne hother]
    exact (hothers other hother).keeps (h other)

/-- Another password is written on both sides. -/
theorem Describes.repassword (h : ledger.Describes s) (hs : s.Sound) {before user : User}
    {identity : Identity} (hcontinues : user.Continues before)
    (hrepasswords : Commit.Repasswords s before identity) {password : String}
    (hpassword : identity.HasPassword password)
    (hidentities : s'.identities = (s.putIdentity identity).identities) :
    (ledger.revise user.email ({ · with password := password })).Describes s' := by
  obtain ⟨hprovider, old, hold⟩ := hrepasswords.spec hs
  have hemail : user.email = identity.email := hcontinues.email.trans hrepasswords.email
  rw [← hcontinues.email] at hold
  obtain ⟨replaced, hentry, -⟩ := (h user.email).eq_verified hs hold
  have hput : (s.putIdentity identity).identities.get? (identity.email, identity.provider)
      = some identity := Table.get?_put_self ..
  rw [hprovider, ← hemail, ← hidentities] at hput
  refine h.update ?_ fun other hother => ?_
  · rw [hentry]
    exact ⟨identity, hput, hpassword⟩
  · have hsame : SamePasswords other s (s.putIdentity identity) :=
      samePasswords_putIdentity fun heq => hother (heq.symm.trans hemail.symm)
    exact ⟨hidentities ▸ hsame.verified, hidentities ▸ hsame.unverified⟩

/-- **Step.** A call that is served is booked as it is committed. -/
theorem Describes.book {w : World} (h : ledger.Describes w.store) (hs : w.store.Sound)
    {served : Served} {commit : Commit} (hhas : served.Has w commit)
    (hadmissible : commit.Admissible w.store) :
    (ledger.book served).Describes (commit.apply w.store) := by
  obtain ⟨call, free, failure | answer⟩ := served
  · have hbook : ledger.book ⟨call, free, .error failure⟩ = ledger := by cases call <;> rfl
    rw [hbook]
    exact h.of_same fun email => Call.Failed.samePasswords hhas email
  cases call with
  | createUser payload address =>
      obtain ⟨identity, role, rfl, hemail, hprovider, hpassword⟩ := hhas
      refine h.update ?_ fun other hother => ?_
      · refine ⟨identity, ?_, hpassword⟩
        rw [← hemail, Commit.identities_apply]
        dsimp only
        rw [hprovider]
        exact Table.get?_put_self ..
      · have hput : SamePasswords other w.store (w.store.putIdentity identity) :=
          samePasswords_putIdentity fun heq => hother (heq.symm.trans hemail)
        exact ⟨hput.verified, hput.unverified⟩
  | changePassword caller payload =>
      obtain ⟨before, identity, -, hpassword, rfl⟩ := hhas
      exact h.repassword hs hadmissible.1.continues hadmissible.2 hpassword rfl
  | applyPasswordReset life payload =>
      obtain ⟨⟨row, before, identity, -, hpassword, rfl⟩, -⟩ := hhas
      obtain ⟨-, -, -, hreplaces, hrepasswords⟩ := hadmissible
      exact h.repassword hs hreplaces.continues hrepasswords hpassword rfl
  | applyEmailVerification life payload =>
      obtain ⟨⟨row, before, identity, -, rfl⟩, -⟩ := hhas
      obtain ⟨-, -, -, hreplaces, -, hbefore, hunverified, -⟩ := hadmissible
      have hemail : (User.email answer) = identity.email :=
        hreplaces.continues.email.trans hbefore
      rw [← hemail] at hunverified
      obtain ⟨password, hentry, hpassword⟩ := (h (User.email answer)).eq_unverified hs hunverified
      refine h.update ?_ fun other hother => ?_
      · rw [hentry]
        refine ⟨{ identity with provider := .email }, ?_, hpassword⟩
        rw [hemail]
        exact Table.get?_put_self ..
      · have hverify : SamePasswords other w.store (w.store.verifyIdentity identity) :=
          samePasswords_verifyIdentity fun heq => hother (heq.symm.trans hemail.symm)
        exact ⟨hverify.verified, hverify.unverified⟩
  | requestPasswordReset caller payload =>
      obtain ⟨user, -, -, -, rfl⟩ := hhas
      exact h.of_same fun email => ⟨rfl, rfl⟩
  | requestEmailVerification caller payload =>
      obtain ⟨user, -, -, -, rfl⟩ := hhas
      exact h.of_same fun email => ⟨rfl, rfl⟩
  | _ => exact h.of_same fun email => Commit.IsQuiet.samePasswords hhas email

/-- **Run.** The ledger of what was served describes the store. -/
theorem describes_run {start : World} (hstart : start.IsInitial) (events : List Event) :
    (ofHistory (start.history events)).Describes (start.run events).store := by
  refine World.run_history (P := fun s history => (ofHistory history).Describes s) hstart ?_ ?_
    events
  · exact fun email => ⟨rfl, rfl⟩
  · intro w history call commit hw hdescribes hhas hadmissible
    rw [ofHistory_concat]
    exact hdescribes.book hw.sound hhas hadmissible

/-- A password passes for an address if the entry is verified and the digest is that of the entry's
password, with the salt that is stored with it. -/
theorem Describes.passes_iff (h : ledger.Describes s) (hs : s.Sound) (payload : EmailIdentity) :
    (∃ user, SignIn.Passes s payload user) ↔ ∃ password identity stored salt,
      ledger payload.email = some ⟨password, true⟩
        ∧ s.findIdentity payload.email .email = some identity
        ∧ identity.password = some stored
        ∧ Password.hash (codesOf password.toList) salt = .ok stored
        ∧ Password.digest (codesOf payload.password.toList) salt
          = Password.digest (codesOf password.toList) salt := by
  constructor
  · rintro ⟨user, hpasses⟩
    obtain ⟨identity, hfind, hpass⟩ := hpasses.password
    obtain ⟨password, hentry, stored, hstored, salt, hhash⟩ :=
      (h payload.email).eq_verified hs hfind
    obtain ⟨same, hsame, hiff⟩ :=
      Password.verify_of_hash hhash (Text.isText_codesOf payload.password.toList)
    rw [hstored, Option.map_some, hsame, Except.ok.injEq] at hpass
    exact ⟨password, identity, stored, salt, hentry, hfind, hstored, hhash, hiff.mp hpass⟩
  · rintro ⟨password, identity, stored, salt, -, hfind, hstored, hhash, hdigest⟩
    obtain ⟨user, huser, hemail, -⟩ := hs.identity_verified hfind
    have hid : user.id = identity.userId := (hs.user_id huser).1
    refine ⟨user, hid ▸ huser, hemail, identity, hfind, ?_⟩
    obtain ⟨same, hsame, hiff⟩ :=
      Password.verify_of_hash hhash (Text.isText_codesOf payload.password.toList)
    rw [hstored, Option.map_some, hsame, hiff.mpr hdigest]

end Ledger

/-- **Signing in with a password refines the ledger.** Whatever was served since the start, signing
in comes to a token exactly where the ledger has a verified entry for the address, and the password
has the digest of the entry's one, with the salt that is stored with it. Then nothing changes but
the times of the last login and of the last change in the row of the user of the address. In all
other cases, the answer is one and the same, and nothing changes at all. -/
theorem credentials_refine (start : World) (hstart : start.IsInitial) (events : List Event)
    (codec : SessionToken.Codec) (payload : EmailIdentity)
    (hcodec : (codec.encode? payload.email).isSome)
    (hslot : (start.run events).slots.isFree = true) :
    let w := start.run events
    let ledger := Ledger.ofHistory (start.history events)
    let result := ((SignIn.withPassword codec payload).exec w).1
    let w' := ((SignIn.withPassword codec payload).exec w).2
    ((∃ token, result = .ok token) ↔ ∃ password identity stored salt,
        ledger payload.email = some ⟨password, true⟩
          ∧ w.store.findIdentity payload.email .email = some identity
          ∧ identity.password = some stored
          ∧ Password.hash (codesOf password.toList) salt = .ok stored
          ∧ Password.digest (codesOf payload.password.toList) salt
            = Password.digest (codesOf password.toList) salt)
      ∧ (∀ token, result = .ok token → codec.encode? payload.email = some token
        ∧ ∃ user, w.store.users.get? user.id = some user ∧ user.email = payload.email
          ∧ w' = { w with store := w.store.putUser (SignIn.loggedInAt w.now user) })
      ∧ ∀ failure, result = .error failure →
        (∃ problem, failure = .service (.unauthenticated problem)
          ∧ problem.message = "Email or password are incorrect") ∧ w' = w := by
  intro w ledger
  dsimp only
  have hs : w.store.Sound := (hstart.settled.run events).sound
  rw [← (Ledger.describes_run hstart events).passes_iff hs payload]
  rcases (SignIn.withPassword_ends hs codec payload).cases with
    ⟨failure, w', hexec, hfailed⟩ | ⟨token, w', hexec, hsigned, user, huser, rfl⟩
  · rw [hexec]
    rcases hfailed with ⟨hbusy, -⟩ | ⟨hnobody, rfl, rfl⟩ | ⟨hunsigned, -⟩
    · exact absurd hslot (Bool.eq_false_iff.mp hbusy)
    · refine ⟨⟨?_, ?_⟩, ?_, ?_⟩
      · rintro ⟨token, htoken⟩
        cases htoken
      · rintro ⟨user, huser⟩
        exact absurd huser (hnobody user)
      · intro token htoken
        cases htoken
      · intro failure hfailure
        cases hfailure
        exact ⟨⟨.credentials, rfl, rfl⟩, rfl⟩
    · rw [hunsigned] at hcodec
      cases hcodec
  · rw [hexec]
    refine ⟨⟨fun _ => ⟨user, huser⟩, fun _ => ⟨token, rfl⟩⟩, ?_, ?_⟩
    · intro _ htoken
      cases htoken
      exact ⟨hsigned, user, huser.found, huser.email, rfl⟩
    · intro failure hfailure
      cases hfailure

/-- Somebody signs up, verifies the address with the token that was issued for it, and signs in. -/
theorem credentials_refine_of_verification :
    let start : World := ⟨0, .empty, .empty 600 0, ⟨1, 0, true⟩, .start [], []⟩
    let events : List Event :=
      [.call (.createUser ⟨"ann@example.com", "password1", none⟩ Email.isAddress_plain),
        .call (.requestEmailVerification .system ⟨"ann@example.com"⟩),
        .call (.applyEmailVerification 3600000000 ⟨"reset-token-0001"⟩)]
    let codec : SessionToken.Codec := ⟨"secret", "HS256"⟩
    ∃ token, ((SignIn.withPassword codec ⟨"ann@example.com", "password1"⟩).exec
      (start.run events)).1 = .ok token := by
  intro start events codec
  have hstart : start.IsInitial := ⟨rfl, rfl⟩
  have hentry : Ledger.ofHistory (start.history events) "ann@example.com"
      = some ⟨"password1", true⟩ := by decide +kernel
  have hkeeps := Ledger.describes_run hstart events "ann@example.com"
  rw [hentry] at hkeeps
  obtain ⟨identity, hfind, stored, hstored, salt, hhash⟩ := hkeeps
  have hrefine := credentials_refine start hstart events codec ⟨"ann@example.com", "password1"⟩
    (by decide +kernel) (by decide +kernel)
  exact hrefine.1.mpr ⟨"password1", identity, stored, salt, hentry, hfind, hstored, hhash, rfl⟩

end Accounts
