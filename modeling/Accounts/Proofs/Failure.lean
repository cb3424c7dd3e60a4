import Accounts.Proofs.Run
import Accounts.Proofs.SessionToken

/-!
# What a failure leaves behind

Nothing is rolled back: an operation writes a row at a time, and what was written before a failure
stays written. All the same a call that fails leaves the store as it was, since every check that can
refuse it comes before its first write, and in the stores that runs lead to no later write is
refused. There is one exception. A one-time token is taken out of the store before it is looked at,
so one that turns out to have expired is gone.

Two things that may fail behind a write depend on how the server is set up: signing a session token,
and computing with the lifetime of one-time tokens. `Call.Equipped` says that neither does.
-/

namespace Accounts

open Op

namespace SessionToken.Codec

/-- The codec can sign: the algorithm is known, and it takes the secret. -/
def CanSign (codec : Codec) : Prop :=
  ∃ algorithm, Algorithm.ofName? codec.algorithm = some algorithm
    ∧ algorithm.takes codec.secret = true

/-- A codec that can sign makes a token for every address. -/
theorem CanSign.encode? {codec : Codec} (h : codec.CanSign) (email : String) :
    ∃ token, codec.encode? email = some token :=
  Option.isSome_iff_exists.mp (Codec.encode?_isSome_iff.mpr h)

end SessionToken.Codec

/-! ## Failures by kind of operation -/

namespace Op

variable {α : Type} {w : World} {time : Int} {s : Store}

/-- Where `op` fails, it has made a commit that `failed` tells of. -/
def FailsWith (op : Op α) (w : World) (time : Int) (s : Store) (failed : Commit → Prop) : Prop :=
  op.Commits w time s (fun _ _ => True) failed

theorem Commits.failsWith {op : Op α} {ok : α → Commit → Prop} {failed : Commit → Prop}
    (h : op.Commits w time s ok failed) : op.FailsWith w time s failed :=
  h.mono (fun _ _ _ _ => trivial) fun _ _ h => h

theorem FailsWith.store {op : Op α} {failed : Commit → Prop} (h : op.FailsWith w time s failed)
    {failure : Failure} {w' : World} (hexec : op.exec w = (.error failure, w')) :
    ∃ commit, failed commit ∧ w'.store = commit.apply s := by
  rcases h.cases with ⟨_, _, hends, commit, hcommit, hafter⟩ | ⟨_, _, hends, -⟩
  · rw [hexec] at hends
    cases hends
    exact ⟨commit, hcommit, hafter.at_apply.store⟩
  · rw [hexec] at hends
    cases hends

end Op

namespace SignIn

variable {w : World} {time : Int} {s : Store}

theorem withPassword_failsWith (hw : w.At time s) (hs : s.Sound) {codec : SessionToken.Codec}
    (hcodec : codec.CanSign) (payload : EmailIdentity) :
    (withPassword codec payload).FailsWith w time s (· = .nothing) := by
  refine (withPassword_ends (hw.store ▸ hs) codec payload).exec.mono ?_ ?_
  · rintro token w' ⟨hexec, -⟩
    rcases (withPassword_commits hw hs codec payload).cases with
      ⟨_, _, hends, -⟩ | ⟨_, _, hends, commit, -, hafter⟩
    · rw [hexec] at hends
      cases hends
    · rw [hexec] at hends
      cases hends
      exact ⟨commit, trivial, hafter⟩
  · rintro failure w' ⟨-, ⟨-, rfl⟩ | ⟨-, -, rfl⟩ | ⟨hunsigned, -⟩⟩
    · exact ⟨_, rfl, hw.after⟩
    · exact ⟨_, rfl, hw.after⟩
    · obtain ⟨token, htoken⟩ := hcodec.encode? payload.email
      rw [hunsigned] at htoken
      cases htoken

theorem withProvider_failsWith (hw : w.At time s) (hs : s.Sound) {codec : SessionToken.Codec}
    (hcodec : codec.CanSign) (providers : Providers) (provider : Provider)
    (payload : ProviderOauth) :
    (withProvider codec providers provider payload).FailsWith w time s (· = .nothing) := by
  unfold withProvider
  refine (fetchProfile_ends hw providers provider payload.token).next ?_
    fun _ _ h => ⟨_, rfl, h.2.after⟩
  rintro profile w₁ ⟨hfetched, hw₁⟩
  refine Ends.next (createOrLink_commits hw₁ hs (isAddress_of_fetched hfetched)) ?_ fun _ _ h => h
  rintro email w₂ ⟨commit, -, hafter⟩
  obtain ⟨token, htoken⟩ := hcodec.encode? email
  rw [ends_mint, htoken]
  exact ⟨commit, trivial, hafter⟩

end SignIn

namespace Credentials

/-- The row of a one-time token that has expired, if it was presented and could be looked up. -/
def expired? (w : World) (life : Lifetime) (token : String) (tokenType : TokenType) :
    Option ResetToken :=
  if w.slots.isFree then
    (w.store.findToken token tokenType).filter fun row => row.createdAt.reading + life < w.now
  else none

/-- The lifetime can be computed with for every one-time token of a store. -/
def Fits (life : Lifetime) (s : Store) : Prop :=
  ∀ key row, s.resetTokens.get? key = some row →
    Timestamp.inRange (row.createdAt.reading + life) = true

/-- A token that was presented to no effect is gone exactly where it has expired. -/
theorem Wastes.apply_eq {w : World} (hs : w.store.Sound) {life : Lifetime}
    (hlife : Fits life w.store) {token : String} {tokenType : TokenType} {commit : Commit}
    (h : Wastes w life token tokenType commit) :
    commit.apply w.store = match expired? w life token tokenType with
      | some row => w.store.eraseToken row
      | none => w.store := by
  rcases h with ⟨hbusy, rfl⟩ | ⟨hfree, ⟨hnone, rfl⟩ | ⟨row, hfind, hbad, rfl⟩⟩
  · simp only [expired?, hbusy, Bool.false_eq_true, if_false]
    rfl
  · simp only [expired?, hfree, if_true, hnone, Option.filter_none]
    rfl
  · have hover : row.createdAt.reading + life < w.now := by
      by_contra hnot
      exact hbad ⟨hlife _ row (findToken_eq_some hs hfind).1, Int.not_lt.mp hnot⟩
    simp only [expired?, hfree, if_true, hfind, Option.filter_some, hover, decide_true]
    rfl

/-- A token that has expired is not accepted. -/
theorem not_accepts_of_expired? {w : World} {life : Lifetime} {token : String}
    {tokenType : TokenType} {row : ResetToken} (h : expired? w life token tokenType = some row) :
    ¬Accepts w life token tokenType := by
  rintro ⟨hfree, other, hother, hgood⟩
  rw [expired?, if_pos hfree, Option.filter_eq_some_iff, hother, Option.some_inj] at h
  obtain ⟨rfl, hover⟩ := h
  exact absurd hgood.notOver (Int.not_le.mpr (of_decide_eq_true hover))

end Credentials

/-! ## Calls -/

namespace Call

/-- Nothing about the setup fails behind a write: tokens can be signed, and lifetimes are within
the bounds of time. -/
def Equipped (s : Store) : Call → Prop
  | signInWithPassword codec _ | signInWithProvider codec _ _ _ => codec.CanSign
  | applyPasswordReset life _ | applyEmailVerification life _ => Credentials.Fits life s
  | _ => True

/-- The expired token that a call presents. -/
def expired? (w : World) : Call → Option ResetToken
  | applyPasswordReset life payload => Credentials.expired? w life payload.token .passwordReset
  | applyEmailVerification life payload => Credentials.expired? w life payload.token .emailVerify
  | _ => none

/-- What a call has committed where it fails. -/
def Leaves (w : World) : Call → Commit → Prop
  | applyPasswordReset life payload, commit =>
    Credentials.Wastes w life payload.token .passwordReset commit
  | applyEmailVerification life payload, commit =>
    Credentials.Wastes w life payload.token .emailVerify commit
  | _, commit => commit = .nothing

variable {w : World}

theorem op_failsWith (hw : w.At w.now w.store) (hs : w.store.Sound) {call : Call}
    (hequipped : call.Equipped w.store) :
    call.op.FailsWith w w.now w.store (call.Leaves w) := by
  cases call with
  | getUser caller id => exact (Users.get_keeps hw caller id).commits.failsWith
  | currentUser caller => exact (Users.current_keeps hw caller).commits.failsWith
  | findUserBySagaId caller sagaId =>
      exact (Users.findBySagaId_keeps hw caller sagaId).commits.failsWith
  | listUsers caller fromId count =>
      exact (Users.list_keeps hw caller fromId count).commits.failsWith
  | createUser payload address => exact (Users.create_commits hw hs address).failsWith
  | updateUser caller id payload =>
      exact (Users.update_commits hw hs caller id payload).failsWith
  | deactivateUser caller id => exact (Users.deactivate_commits hw hs caller id).failsWith
  | revokeTokens caller id => exact (Users.revokeTokens_commits hw hs caller id).failsWith
  | listRoles caller userId => exact (Roles.list_keeps hw caller userId).commits.failsWith
  | createRole caller payload => exact (Roles.create_commits hw hs caller payload).failsWith
  | createDefaultRole caller userId =>
      exact (Roles.createDefault_commits hw hs caller userId).failsWith
  | deleteRole caller id => exact (Roles.delete_commits hw hs caller id).failsWith
  | deleteRoles caller userId => exact (Roles.deleteAll_commits hw hs caller userId).failsWith
  | changePassword caller payload =>
      exact (Credentials.changePassword_commits hw hs caller payload).failsWith
  | requestPasswordReset caller payload =>
      exact (Credentials.requestPasswordReset_commits hw hs caller payload).failsWith
  | applyPasswordReset life payload =>
      exact (Credentials.applyPasswordReset_commits hw hs life payload).failsWith
  | requestEmailVerification caller payload =>
      exact (Credentials.requestEmailVerification_commits hw hs caller payload).failsWith
  | applyEmailVerification life payload =>
      exact (Credentials.applyEmailVerification_commits hw hs life payload).failsWith
  | signInWithPassword codec payload =>
      exact SignIn.withPassword_failsWith hw hs hequipped payload
  | signInWithProvider codec providers provider payload =>
      exact SignIn.withProvider_failsWith hw hs hequipped providers provider payload
  | createOrLink profile address => exact (SignIn.createOrLink_commits hw hs address).failsWith

/-- What a failed call has committed is no more than the removal of an expired token. -/
theorem Leaves.apply_eq (hs : w.store.Sound) {call : Call} (hequipped : call.Equipped w.store)
    {commit : Commit} (h : call.Leaves w commit) :
    commit.apply w.store = match call.expired? w with
      | some row => w.store.eraseToken row
      | none => w.store := by
  cases call with
  | applyPasswordReset life payload => exact Credentials.Wastes.apply_eq hs hequipped h
  | applyEmailVerification life payload => exact Credentials.Wastes.apply_eq hs hequipped h
  | _ =>
      obtain rfl : commit = .nothing := h
      rfl

/-- A call that presents an expired token fails. -/
theorem fails_of_expired? (hw : w.At w.now w.store) (hs : w.store.Sound) {call : Call}
    {row : ResetToken} (h : call.expired? w = some row) :
    ∃ failure w', call.op.exec w = (.error failure, w') := by
  have hdoes := call.op_does hw hs
  rcases hdoes.cases with ⟨failure, w', hexec, -⟩ | ⟨answer, w', hexec, commit, hdone, -⟩
  · exact ⟨failure, w', hexec⟩
  · cases call with
    | applyPasswordReset life payload =>
        exact absurd hdone.2 (Credentials.not_accepts_of_expired? h)
    | applyEmailVerification life payload =>
        exact absurd hdone.2 (Credentials.not_accepts_of_expired? h)
    | _ => cases h

end Call

/-- **Failed calls leave the store as it was.** Whoever calls, whatever is sent, whatever slots are
held and whatever another provider answers: a call that fails has changed no table, but for a
one-time token that was presented although it had expired, which is gone then. Presenting one does
fail. -/
theorem failure_leaves_store {w : World} (hw : w.Reachable) (call : Call)
    (hequipped : call.Equipped w.store) :
    (∀ failure w', call.op.exec w = (.error failure, w') →
        w'.store = match call.expired? w with
          | some row => w.store.eraseToken row
          | none => w.store)
      ∧ ∀ row, call.expired? w = some row →
        ∃ failure w', call.op.exec w = (.error failure, w') := by
  have hat := hw.settled.at_store
  have hs := hw.settled.sound
  refine ⟨fun failure w' hexec => ?_, fun row hrow => Call.fails_of_expired? hat hs hrow⟩
  obtain ⟨commit, hleaves, hstore⟩ := (Call.op_failsWith hat hs hequipped).store hexec
  rw [hstore]
  exact hleaves.apply_eq hs hequipped

/-- A verification that comes a microsecond too late takes the token with it. -/
theorem failure_leaves_store_of_late :
    let start : World := ⟨0, .empty, .empty 600 0, ⟨1, 0, true⟩, .start [], []⟩
    let w := start.run
      [.call (.createUser ⟨"ann@example.com", "password1", none⟩ Email.isAddress_plain),
        .call (.requestEmailVerification .system ⟨"ann@example.com"⟩),
        .meanwhile 3600000001 ⟨1, 0, true⟩ (.start []) []]
    let call := Call.applyEmailVerification 3600000000 ⟨"reset-token-0001"⟩
    let row : ResetToken := ⟨"reset-token-0001", "ann@example.com", .emailVerify, .utc 0⟩
    w.store.resetTokens = [(("ann@example.com", .emailVerify), row)]
      ∧ ∃ failure w', call.op.exec w = (.error failure, w')
        ∧ w'.store = w.store.eraseToken row := by
  intro start w call row
  have hw : w.Reachable := ⟨start, _, ⟨rfl, rfl⟩, rfl⟩
  have htokens : w.store.resetTokens = [(("ann@example.com", .emailVerify), row)] := by
    decide +kernel
  have hequipped : call.Equipped w.store := by
    intro key found hfound
    have hmem := Table.mem_of_get? hfound
    rw [htokens, List.mem_singleton] at hmem
    rw [(Prod.mk.inj hmem).2]
    decide
  have hexpired : call.expired? w = some row := by decide +kernel
  obtain ⟨hleaves, hfails⟩ := failure_leaves_store hw call hequipped
  obtain ⟨failure, w', hexec⟩ := hfails row hexpired
  have hstore := hleaves failure w' hexec
  rw [hexpired] at hstore
  exact ⟨htokens, failure, w', hexec, hstore⟩

end Accounts
