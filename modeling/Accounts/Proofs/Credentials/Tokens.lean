import Accounts.Proofs.History

/-!
# One-time tokens

A token is live from the call that issues it until a call that issues another one for its address
and type, or that presents it, whatever comes of that (`IsLive`). The table of tokens holds the live
ones and no others (`Tracks`). It holds them together with the user and the identity that they act
on, so presenting a live token that is not over yet succeeds, and nothing else does
(`one_time_tokens`).

Tokens are looked up by their text alone, so all this takes texts that are pairwise distinct. An
attempt with a text that is yet to be issued finds nothing and does not count.
-/

namespace Accounts

open Op Credentials

/-! ## Live tokens -/

namespace Served

/-- The token that a call issued. -/
def issued? : Served → Option ResetToken
  | ⟨.requestPasswordReset _ _, _, .ok row⟩ => some row
  | ⟨.requestEmailVerification _ _, _, .ok row⟩ => some row
  | _ => none

/-- The text that a call presented, and what for. Without a slot it did not get as far. -/
def presented? : Served → Option (TokenType × String)
  | ⟨.applyPasswordReset _ payload, true, _⟩ => some (.passwordReset, payload.token)
  | ⟨.applyEmailVerification _ payload, true, _⟩ => some (.emailVerify, payload.token)
  | _ => none

/-- A call puts an end to a token: it issues another one in its place, or it presents it. -/
def Stops (served : Served) (row : ResetToken) : Prop :=
  (∃ other, served.issued? = some other ∧ other.email = row.email
      ∧ other.tokenType = row.tokenType)
    ∨ served.presented? = some (row.tokenType, row.token)

end Served

/-- The tokens that were issued, in order. -/
def issuedIn (history : List Served) : List ResetToken := history.filterMap (·.issued?)

/-- The texts of the tokens that were issued are distinct. -/
abbrev Distinct (history : List Served) : Prop := ((issuedIn history).map (·.token)).Nodup

/-- A token was issued, and no call behind that put an end to it. -/
def IsLive (history : List Served) (row : ResetToken) : Prop :=
  ∃ before issue after, history = before ++ issue :: after ∧ issue.issued? = some row
    ∧ ∀ later ∈ after, ¬later.Stops row

variable {history : List Served} {served : Served} {row other : ResetToken}

theorem not_isLive_nil : ¬IsLive [] row := by
  rintro ⟨before, issue, after, hsplit, -⟩
  simp at hsplit

/-- What is live behind one more call was issued by it, or was live before and is not stopped. -/
theorem isLive_concat :
    IsLive (history ++ [served]) row ↔
      served.issued? = some row ∨ IsLive history row ∧ ¬served.Stops row := by
  constructor
  · rintro ⟨before, issue, after, hsplit, hissue, hafter⟩
    rcases List.eq_nil_or_concat after with rfl | ⟨init, last, rfl⟩
    · obtain ⟨-, hlast⟩ := List.append_inj' hsplit rfl
      rw [(List.cons.inj hlast).1]
      exact Or.inl hissue
    · rw [List.concat_eq_append] at hsplit hafter
      rw [← List.cons_append, ← List.append_assoc] at hsplit
      obtain ⟨hinit, hlast⟩ := List.append_inj' hsplit rfl
      obtain rfl : served = last := (List.cons.inj hlast).1
      refine Or.inr ⟨⟨before, issue, init, hinit, hissue, fun later hmem => ?_⟩, ?_⟩
      · exact hafter later (List.mem_append_left _ hmem)
      · exact hafter served (List.mem_append_right _ List.mem_cons_self)
  · rintro (hissue | ⟨⟨before, issue, after, hsplit, hissue, hafter⟩, hstops⟩)
    · exact ⟨history, served, [], rfl, hissue, fun _ hmem => absurd hmem List.not_mem_nil⟩
    · refine ⟨before, issue, after ++ [served], by simp [hsplit], hissue, fun later hmem => ?_⟩
      rcases List.mem_append.mp hmem with hold | hnew
      · exact hafter later hold
      · exact List.mem_singleton.mp hnew ▸ hstops

theorem IsLive.mem_issuedIn (h : IsLive history row) : row ∈ issuedIn history := by
  obtain ⟨before, issue, after, rfl, hissue, -⟩ := h
  exact List.mem_filterMap.mpr ⟨issue, by simp, hissue⟩

/-- A live token is known by its text. -/
theorem IsLive.eq_of_token (hdistinct : Distinct history) (h : IsLive history row)
    (h' : IsLive history other) (htoken : row.token = other.token) : row = other :=
  List.inj_on_of_nodup_map hdistinct h.mem_issuedIn h'.mem_issuedIn htoken

theorem Distinct.of_concat (h : Distinct (history ++ [served])) : Distinct history := by
  have hparts : issuedIn (history ++ [served]) = issuedIn history ++ issuedIn [served] :=
    List.filterMap_append
  unfold Distinct at h
  rw [hparts, List.map_append] at h
  exact h.of_append_left

/-! ## The table of tokens -/

section Table

variable {s : Store} {token : String} {tokenType : TokenType}

theorem takeToken_eq (hs : s.Sound) (h : s.findToken token tokenType = some row) :
    (s.takeToken token tokenType).2 = s.eraseToken row := by
  obtain ⟨-, -, rfl⟩ := findToken_eq_some hs h
  rw [Store.takeToken, h]
  rfl

/-- A token of the table is found by its text, or hides behind another one with it. -/
theorem findToken_isSome (hs : s.Sound) {key : String × TokenType}
    (h : s.resetTokens.get? key = some row) :
    ∃ found, s.findToken row.token row.tokenType = some found := by
  have hmem : row ∈ s.resetTokens.values := (Table.mem_values_iff hs.tokens_unique).mpr ⟨key, h⟩
  have hsome : (s.findToken row.token row.tokenType).isSome :=
    List.find?_isSome.mpr ⟨row, hmem, by simp⟩
  exact Option.isSome_iff_exists.mp hsome

/-- Presenting a token to no effect takes it out of the table. Without a slot it stays there. -/
theorem Wastes.resetTokens_apply {w : World} {commit : Commit} {life : Lifetime}
    (hs : w.store.Sound) (h : Wastes w life token tokenType commit) :
    (commit.apply w.store).resetTokens =
      if w.slots.isFree = true then (w.store.takeToken token tokenType).2.resetTokens
      else w.store.resetTokens := by
  rcases h with ⟨hbusy, rfl⟩ | ⟨hslot, hmisses⟩
  · rw [hbusy]
    rfl
  · rw [if_pos hslot]
    rcases hmisses with ⟨hnone, rfl⟩ | ⟨row, hfind, -, rfl⟩
    · rw [Store.takeToken, hnone]
      rfl
    · rw [takeToken_eq hs hfind]
      rfl

/-- **What a call does to the tokens.** It issues one, or takes the one that it presents, or leaves
all as they are. -/
theorem Served.Has.resetTokens_apply {w : World} {commit : Commit} (hs : w.store.Sound)
    (h : served.Has w commit) (hfree : served.free = w.slots.isFree) :
    (∃ issued, served.issued? = some issued ∧ served.presented? = none
        ∧ (commit.apply w.store).resetTokens =
          w.store.resetTokens.put (issued.email, issued.tokenType) issued)
      ∨ (∃ tokenType token, served.issued? = none
        ∧ served.presented? = some (tokenType, token)
        ∧ (commit.apply w.store).resetTokens = (w.store.takeToken token tokenType).2.resetTokens)
      ∨ served.issued? = none ∧ served.presented? = none
        ∧ (commit.apply w.store).resetTokens = w.store.resetTokens := by
  obtain ⟨call, free, failure | answer⟩ := served
  · cases call with
    | applyPasswordReset life payload =>
        have htokens := Wastes.resetTokens_apply hs h
        rw [← hfree] at htokens
        cases free with
        | true => exact Or.inr (Or.inl ⟨_, _, rfl, rfl, htokens⟩)
        | false => exact Or.inr (Or.inr ⟨rfl, rfl, htokens⟩)
    | applyEmailVerification life payload =>
        have htokens := Wastes.resetTokens_apply hs h
        rw [← hfree] at htokens
        cases free with
        | true => exact Or.inr (Or.inl ⟨_, _, rfl, rfl, htokens⟩)
        | false => exact Or.inr (Or.inr ⟨rfl, rfl, htokens⟩)
    | _ => exact Or.inr (Or.inr ⟨rfl, rfl, Commit.IsQuiet.resetTokens_apply h _⟩)
  · cases call with
    | createUser payload address =>
        obtain ⟨identity, role, rfl, -⟩ := h
        exact Or.inr (Or.inr ⟨rfl, rfl, rfl⟩)
    | changePassword caller payload =>
        obtain ⟨before, identity, -, -, rfl⟩ := h
        exact Or.inr (Or.inr ⟨rfl, rfl, rfl⟩)
    | requestPasswordReset caller payload =>
        obtain ⟨user, -, -, -, rfl⟩ := h
        exact Or.inl ⟨answer, rfl, rfl, rfl⟩
    | requestEmailVerification caller payload =>
        obtain ⟨user, -, -, -, rfl⟩ := h
        exact Or.inl ⟨answer, rfl, rfl, rfl⟩
    | applyPasswordReset life payload =>
        obtain ⟨⟨row, before, identity, hfind, -, rfl⟩, hslot, -⟩ := h
        obtain rfl : free = true := hfree.trans hslot
        refine Or.inr (Or.inl ⟨_, _, rfl, rfl, ?_⟩)
        rw [takeToken_eq hs hfind]
        rfl
    | applyEmailVerification life payload =>
        obtain ⟨⟨row, before, identity, hfind, rfl⟩, hslot, -⟩ := h
        obtain rfl : free = true := hfree.trans hslot
        refine Or.inr (Or.inl ⟨_, _, rfl, rfl, ?_⟩)
        rw [takeToken_eq hs hfind]
        rfl
    | _ => exact Or.inr (Or.inr ⟨rfl, rfl, Commit.IsQuiet.resetTokens_apply h _⟩)

/-- The table of tokens holds the live ones. -/
def Tracks (s : Store) (history : List Served) : Prop :=
  ∀ row, s.resetTokens.get? (row.email, row.tokenType) = some row ↔ IsLive history row

/-- A token is found by its text if it is live. -/
theorem Tracks.findToken_eq_some_iff (h : Tracks s history) (hs : s.Sound)
    (hdistinct : Distinct history) :
    s.findToken token tokenType = some row ↔
      IsLive history row ∧ row.tokenType = tokenType ∧ row.token = token := by
  constructor
  · intro hfind
    obtain ⟨hget, htoken, htype⟩ := findToken_eq_some hs hfind
    exact ⟨(h row).mp hget, htype, htoken⟩
  · rintro ⟨hlive, rfl, rfl⟩
    obtain ⟨found, hfound⟩ := findToken_isSome hs ((h row).mpr hlive)
    obtain ⟨hget, htoken, -⟩ := findToken_eq_some hs hfound
    rw [hfound, ((h found).mp hget).eq_of_token hdistinct hlive htoken]

/-- A token that is issued stands in place of the one before. -/
theorem Tracks.issue (h : Tracks s history) {s' : Store} {issued : ResetToken}
    (hissued : served.issued? = some issued) (hpresented : served.presented? = none)
    (hput : s'.resetTokens = s.resetTokens.put (issued.email, issued.tokenType) issued) :
    Tracks s' (history ++ [served]) := by
  intro row
  have hsame : served.issued? = some row → issued = row := by
    intro hrow
    rw [hissued] at hrow
    exact Option.some.inj hrow
  rw [hput, isLive_concat, Table.get?_put]
  by_cases hkey : (issued.email, issued.tokenType) = (row.email, row.tokenType)
  · rw [if_pos hkey, Option.some_inj]
    constructor
    · rintro rfl
      exact Or.inl hissued
    · rintro (hrow | ⟨-, hstops⟩)
      · exact hsame hrow
      · exact absurd (Or.inl ⟨issued, hissued, Prod.mk.inj hkey⟩) hstops
  · rw [if_neg hkey, h row]
    constructor
    · intro hlive
      refine Or.inr ⟨hlive, ?_⟩
      rintro (⟨other, hother, hemail, htype⟩ | hstops)
      · rw [hissued] at hother
        obtain rfl := Option.some.inj hother
        exact hkey (by rw [hemail, htype])
      · rw [hpresented] at hstops
        cases hstops
    · rintro (hrow | ⟨hlive, -⟩)
      · obtain rfl := hsame hrow
        exact absurd rfl hkey
      · exact hlive

/-- A token that is presented is gone, and no other one is. -/
theorem Tracks.present (h : Tracks s history) (hs : s.Sound) (hdistinct : Distinct history)
    {s' : Store} (hissued : served.issued? = none)
    (hpresented : served.presented? = some (tokenType, token))
    (htake : s'.resetTokens = (s.takeToken token tokenType).2.resetTokens) :
    Tracks s' (history ++ [served]) := by
  intro row
  have hstops : served.Stops row ↔ row.tokenType = tokenType ∧ row.token = token := by
    unfold Served.Stops
    rw [hissued, hpresented]
    simp [eq_comm]
  rw [isLive_concat, hissued, hstops, htake]
  simp only [reduceCtorEq, false_or]
  cases hfind : s.findToken token tokenType with
  | none =>
      rw [Store.takeToken, hfind]
      refine (h row).trans ⟨fun hlive => ⟨hlive, ?_⟩, fun hlive => hlive.1⟩
      rintro ⟨rfl, rfl⟩
      obtain ⟨found, hfound⟩ := findToken_isSome hs ((h row).mpr hlive)
      rw [hfind] at hfound
      cases hfound
  | some taken =>
      obtain ⟨hget, rfl, rfl⟩ := findToken_eq_some hs hfind
      have htaken : IsLive history taken := (h taken).mp hget
      rw [takeToken_eq hs hfind, Store.eraseToken, Table.get?_erase]
      by_cases hkey : (taken.email, taken.tokenType) = (row.email, row.tokenType)
      · rw [if_pos hkey]
        constructor
        · intro hnone
          cases hnone
        · rintro ⟨hlive, hother⟩
          have hrow := (h row).mpr hlive
          rw [← hkey, hget] at hrow
          obtain rfl := Option.some.inj hrow
          exact absurd ⟨rfl, rfl⟩ hother
      · rw [if_neg hkey, h row]
        refine ⟨fun hlive => ⟨hlive, ?_⟩, fun hlive => hlive.1⟩
        rintro ⟨-, htoken⟩
        obtain rfl := hlive.eq_of_token hdistinct htaken htoken
        exact hkey rfl

/-- Where nothing happens to the tokens, the same ones are live. -/
theorem Tracks.keep (h : Tracks s history) {s' : Store} (hissued : served.issued? = none)
    (hpresented : served.presented? = none) (hsame : s'.resetTokens = s.resetTokens) :
    Tracks s' (history ++ [served]) := by
  intro row
  have hstops : ¬served.Stops row := by
    unfold Served.Stops
    rw [hissued, hpresented]
    simp
  rw [hsame, h row, isLive_concat, hissued]
  simp [hstops]

/-- **Run.** The tokens that are live behind what was served are the ones in the table. -/
theorem tracks_run {start : World} (hstart : start.IsInitial) (events : List Event)
    (hdistinct : Distinct (start.history events)) :
    Tracks (start.run events).store (start.history events) := by
  refine World.run_history (P := fun s history => Distinct history → Tracks s history) hstart
    ?_ ?_ events hdistinct
  · intro _ row
    constructor
    · intro hget
      cases hget
    · intro hlive
      exact absurd hlive not_isLive_nil
  · intro w history call commit hw htracks hhas hadmissible hdistinct
    have hbefore := hdistinct.of_concat
    rcases hhas.resetTokens_apply hw.sound rfl with
      ⟨issued, hissued, hpresented, hput⟩ | ⟨tokenType, token, hissued, hpresented, htake⟩ |
        ⟨hissued, hpresented, hsame⟩
    · exact (htracks hbefore).issue hissued hpresented hput
    · exact (htracks hbefore).present hw.sound hbefore hissued hpresented htake
    · exact (htracks hbefore).keep hissued hpresented hsame

end Table

/-! ## Presenting a token -/

/-- Presents a text as a token of a type. A password is only asked for where one is reset. -/
def present (tokenType : TokenType) (life : Lifetime) (token password : String) : Op User :=
  match tokenType with
  | .passwordReset => applyPasswordReset life ⟨token, password⟩
  | .emailVerify => applyEmailVerification life ⟨token⟩

/-- A commit takes a token for a user, whose row is replaced. -/
def Commit.Uses (row : ResetToken) (user : User) (commit : Commit) : Prop :=
  ∃ before identity, commit = .reset row before user identity
    ∨ commit = .verify row before user identity

section Present

variable {s : Store} {commit : Commit} {user : User}

/-- The user of a token has its address, and was there before. -/
theorem Commit.Uses.owner (h : commit.Uses row user) (hadmissible : commit.Admissible s) :
    user.email = row.email
      ∧ (∃ before, s.users.get? user.id = some before ∧ before.email = row.email)
      ∧ (commit.apply s).users.get? user.id = some user := by
  have hreplaces : ∀ {before}, row.email = before.email → Commit.Replaces s before user →
      user.email = row.email
        ∧ ∃ before, s.users.get? user.id = some before ∧ before.email = row.email := by
    intro before hemail hreplaces
    refine ⟨hreplaces.continues.email.trans hemail.symm, before, ?_, hemail.symm⟩
    rw [hreplaces.continues.id]
    exact hreplaces.found
  obtain ⟨before, identity, rfl | rfl⟩ := h
  · obtain ⟨-, -, hemail, hbefore, -⟩ := hadmissible
    obtain ⟨hsame, hthere⟩ := hreplaces hemail hbefore
    exact ⟨hsame, hthere, Table.get?_put_self ..⟩
  · obtain ⟨-, -, hemail, hbefore, -⟩ := hadmissible
    obtain ⟨hsame, hthere⟩ := hreplaces hemail hbefore
    exact ⟨hsame, hthere, Table.get?_put_self ..⟩

/-- Taking a token touches nothing of other addresses, and no role grants. -/
theorem Commit.Uses.others (h : commit.Uses row user) (hs : s.Sound)
    (hadmissible : commit.Admissible s) :
    (∀ other ≠ row.email, Commit.SameAt other s (commit.apply s))
      ∧ (commit.apply s).userRoles = s.userRoles := by
  have hsame : commit.email? = some row.email →
      ∀ other ≠ row.email, Commit.SameAt other s (commit.apply s) := by
    intro hemail other hother
    refine Commit.sameAt_apply hs hadmissible ?_
    rw [hemail]
    exact fun heq => hother (Option.some.inj heq).symm
  obtain ⟨before, identity, rfl | rfl⟩ := h
  · exact ⟨hsame rfl, rfl⟩
  · exact ⟨hsame rfl, rfl⟩

/-- A token that was taken is not found again. -/
theorem Commit.Uses.findToken_apply (h : commit.Uses row user) (hs : s.Sound)
    (hadmissible : commit.Admissible s) (htracks : Tracks s history)
    (hdistinct : Distinct history) (hlive : IsLive history row) :
    (commit.apply s).findToken row.token row.tokenType = none := by
  have herase : (commit.apply s).resetTokens = s.resetTokens.erase (row.email, row.tokenType) := by
    obtain ⟨before, identity, rfl | rfl⟩ := h
    · rfl
    · rfl
  refine Option.eq_none_iff_forall_ne_some.mpr fun other hother => ?_
  obtain ⟨hget, htoken, htype⟩ := findToken_eq_some (Commit.sound_apply hs hadmissible) hother
  rw [herase, Table.get?_erase] at hget
  split at hget
  · cases hget
  · rename_i hkey
    have hsame := ((htracks other).mp hget).eq_of_token hdistinct hlive htoken
    rw [hsame] at hkey
    exact hkey rfl

theorem present_commits {w : World} (hw : w.At w.now w.store) (hs : w.store.Sound)
    (tokenType : TokenType) (life : Lifetime) (token password : String) :
    (present tokenType life token password).Commits w w.now w.store
      (fun user commit => ∃ row, w.store.findToken token tokenType = some row
        ∧ IsGood life w.now row ∧ commit.Uses row user)
      (Wastes w life token tokenType) := by
  -- The token that is taken is the one that was found to be good.
  have hgood : ∀ {row tokenType}, w.store.findToken token tokenType = some row →
      Accepts w life token tokenType → IsGood life w.now row := by
    rintro row tokenType hfind ⟨-, found, hfound, hgood⟩
    rw [hfind] at hfound
    obtain rfl := Option.some.inj hfound
    exact hgood
  cases tokenType with
  | passwordReset =>
      refine (applyPasswordReset_commits hw hs life ⟨token, password⟩).mono ?_ fun _ _ h => h
      rintro user commit - ⟨⟨row, before, identity, hfind, -, rfl⟩, haccepts⟩
      exact ⟨row, hfind, hgood hfind haccepts, before, identity, Or.inl rfl⟩
  | emailVerify =>
      refine (applyEmailVerification_commits hw hs life ⟨token⟩).mono ?_ fun _ _ h => h
      rintro user commit - ⟨⟨row, before, identity, hfind, rfl⟩, haccepts⟩
      exact ⟨row, hfind, hgood hfind haccepts, before, identity, Or.inr rfl⟩

/-- With a slot to be had, a token that is found and good is taken, and nothing else comes to an
answer. -/
theorem present_ends {w : World} (hw : w.At w.now w.store) (hs : w.store.Sound)
    (hslot : w.slots.isFree = true) (tokenType : TokenType) (life : Lifetime)
    (token password : String) :
    (present tokenType life token password).Ends w
      (fun user w' => ∃ row, ∃ commit : Commit, w.store.findToken token tokenType = some row
        ∧ IsGood life w.now row ∧ commit.Uses row user ∧ commit.Admissible w.store
        ∧ w'.store = commit.apply w.store)
      (fun _ w' => (∀ row, w.store.findToken token tokenType = some row → ¬IsGood life w.now row)
        ∧ (w.store.findToken token tokenType = none → w'.store = w.store)) := by
  refine Ends.mono (present_commits hw hs tokenType life token password) ?_ ?_
  · rintro user w' ⟨commit, ⟨row, hfind, hgood, huses⟩, hafter⟩
    exact ⟨row, commit, hfind, hgood, huses, hafter.admissible, hafter.at_apply.store⟩
  · rintro failure w' ⟨commit, ⟨hbusy, -⟩ | ⟨-, hmisses⟩, hafter⟩
    · exact absurd hslot (Bool.eq_false_iff.mp hbusy)
    · rcases hmisses with ⟨hnone, rfl⟩ | ⟨row, hfind, hbad, -⟩
      · rw [hnone]
        exact ⟨nofun, fun _ => hafter.at_apply.store⟩
      · rw [hfind]
        refine ⟨fun other hother => ?_, nofun⟩
        rw [← Option.some.inj hother]
        exact hbad

end Present

/-- **One-time tokens.** Whatever was served since the start, presenting a text as a token of a type
succeeds exactly where there is a live token of that type with that text, and its lifetime is not
over. It acts on the user of the address that the token was issued for and on nobody else, and the
token is gone. Where there is no live token of that type with that text, the store stays as it
is. -/
theorem one_time_tokens (start : World) (hstart : start.IsInitial) (events : List Event)
    (tokenType : TokenType) (life : Lifetime) (token password : String)
    (hdistinct : Distinct (start.history events))
    (hrange : ∀ row ∈ issuedIn (start.history events), row.token = token →
      Timestamp.inRange (row.createdAt.reading + life) = true)
    (hslot : (start.run events).slots.isFree = true) :
    let history := start.history events
    let w := start.run events
    let result := ((present tokenType life token password).exec w).1
    let w' := ((present tokenType life token password).exec w).2
    ((∃ user, result = .ok user) ↔ ∃ row, IsLive history row ∧ row.tokenType = tokenType
        ∧ row.token = token ∧ w.now ≤ row.createdAt.reading + life)
      ∧ (∀ user, result = .ok user → ∃ row, IsLive history row ∧ row.tokenType = tokenType
        ∧ row.token = token ∧ user.email = row.email
        ∧ (∃ before, w.store.users.get? user.id = some before ∧ before.email = row.email)
        ∧ w'.store.users.get? user.id = some user
        ∧ (∀ other ≠ row.email, Commit.SameAt other w.store w'.store)
        ∧ w'.store.userRoles = w.store.userRoles
        ∧ w'.store.findToken token tokenType = none)
      ∧ ((¬∃ row, IsLive history row ∧ row.tokenType = tokenType ∧ row.token = token) →
        (∃ failure, result = .error failure) ∧ w'.store = w.store) := by
  intro history w
  dsimp only
  have hsettled : w.Settled := hstart.settled.run events
  have hs := hsettled.sound
  have htracks : Tracks w.store history := tracks_run hstart events hdistinct
  have hfound : ∀ {row}, w.store.findToken token tokenType = some row ↔
      IsLive history row ∧ row.tokenType = tokenType ∧ row.token = token :=
    htracks.findToken_eq_some_iff hs hdistinct
  rcases (present_ends hsettled.at_store hs hslot tokenType life token password).cases with
    ⟨failure, w', hexec, hbad, hsame⟩ |
      ⟨user, w', hexec, row, commit, hfind, hgood, huses, hadmissible, hstore⟩
  · rw [hexec]
    refine ⟨⟨?_, ?_⟩, ?_, ?_⟩
    · rintro ⟨user, huser⟩
      cases huser
    · rintro ⟨row, hlive, htype, htoken, hnotOver⟩
      have hgood : IsGood life w.now row := ⟨hrange row hlive.mem_issuedIn htoken, hnotOver⟩
      exact absurd hgood (hbad row (hfound.mpr ⟨hlive, htype, htoken⟩))
    · intro user huser
      cases huser
    · intro hnone
      refine ⟨⟨failure, rfl⟩, hsame (Option.eq_none_iff_forall_ne_some.mpr ?_)⟩
      exact fun row hfind => hnone ⟨row, hfound.mp hfind⟩
  · rw [hexec]
    obtain ⟨hlive, htype, htoken⟩ := hfound.mp hfind
    obtain ⟨hemail, hbefore, hthere⟩ := huses.owner hadmissible
    obtain ⟨hothers, hroles⟩ := huses.others hs hadmissible
    have hgone := huses.findToken_apply hs hadmissible htracks hdistinct hlive
    rw [htype, htoken] at hgone
    refine ⟨⟨fun _ => ⟨row, hlive, htype, htoken, hgood.notOver⟩, fun _ => ⟨user, rfl⟩⟩, ?_, ?_⟩
    · intro _ hother
      cases hother
      rw [hstore]
      exact ⟨row, hlive, htype, htoken, hemail, hbefore, hthere, hothers, hroles, hgone⟩
    · intro hnone
      exact absurd ⟨row, hlive, htype, htoken⟩ hnone

/-- A second token is asked for in place of the first one, and verifies the address. -/
theorem one_time_tokens_of_second :
    let start : World := ⟨0, .empty, .empty 600 0, ⟨1, 0, true⟩, .start [], []⟩
    let events : List Event :=
      [.call (.createUser ⟨"ann@example.com", "password1", none⟩ Email.isAddress_plain),
        .call (.requestEmailVerification .system ⟨"ann@example.com"⟩),
        .call (.requestEmailVerification .system ⟨"ann@example.com"⟩)]
    ∃ user, ((present .emailVerify 3600000000 "reset-token-0002" "").exec (start.run events)).1
      = .ok user := by
  intro start events
  let row : ResetToken := ⟨"reset-token-0002", "ann@example.com", .emailVerify, ⟨0, some 0⟩⟩
  let last := Call.servedIn (.requestEmailVerification .system ⟨"ann@example.com"⟩)
    (start.run (events.take 2))
  have hissued : last.issued? = some row := by decide +kernel
  have hhistory : start.history events = start.history (events.take 2) ++ [last] :=
    start.history_concat (events.take 2) _
  have hlive : IsLive (start.history events) row := by
    rw [hhistory]
    exact isLive_concat.mpr (Or.inl hissued)
  have htokens := one_time_tokens start ⟨rfl, rfl⟩ events .emailVerify 3600000000
    "reset-token-0002" "" (by decide +kernel) (by decide +kernel) (by decide +kernel)
  exact htokens.1.mpr ⟨row, hlive, rfl, rfl, by decide +kernel⟩

end Accounts
