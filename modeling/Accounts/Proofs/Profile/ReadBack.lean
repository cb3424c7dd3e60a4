import Accounts.Proofs.Profile.Regular

/-!
# Users are read back

Whatever happens to a server, every user that is stored or answered is regular, and its record is
read as the same user again, unless its gender is missing. A gender is missing only where an update
that was answered named the user and took the gender away: the form of an update admits that, though
the record of a user does not.

The clock has to show times that a timestamp can show, and what is given to a call directly has to
be what was read from a document, as it is for a request.
-/

namespace Accounts

open Op

/-- What is given to a call was read, and the clock is set to a time that can be shown. -/
def Event.IsProper : Event → Prop
  | .request .. => True
  | .call made => made.IsRead
  | .meanwhile now .. => Timestamp.inRange now = true

namespace Api

/-- What an endpoint calls a service with was read from the body. -/
theorem Endpoint.isRead_of_call? {setup : Setup} {request : Http.Request} {route : Route}
    {caller : Caller} {endpoint : Endpoint} {call : Call}
    (h : endpoint.call? setup request route caller = some call) : call.IsRead := by
  cases endpoint with
  | updateUser =>
      obtain ⟨changes, hchanges, h⟩ := Option.bind_eq_some_iff.mp h
      cases h
      cases hread : payloadOf setup.bodyDepth UpdateProfile.ofMembers request.body with
      | error failure =>
          rw [hread] at hchanges
          cases hchanges
      | ok payload =>
          rw [hread] at hchanges
          cases hchanges
          exact checked_of_payloadOf hread
  | createUser =>
      unfold call? at h
      dsimp only at h
      split at h
      · cases h
        trivial
      · cases h
  | healthcheck => cases h
  | listUsers | changePassword | requestPasswordReset | applyPasswordReset
  | requestEmailVerification | applyEmailVerification =>
      obtain ⟨_, -, h⟩ := Option.bind_eq_some_iff.mp h
      obtain ⟨_, -, h⟩ := Option.bind_eq_some_iff.mp h
      cases h
      trivial
  | jwtEmail | jwtGoogle | jwtFacebook | getOwnRoles | createRole =>
      obtain ⟨_, -, h⟩ := Option.bind_eq_some_iff.mp h
      cases h
      trivial
  | _ =>
      cases h
      trivial

theorem isRead_of_callOf? {setup : Setup} {request : Http.Request} {w : World} {call : Call}
    (h : callOf? setup request w = some call) : call.IsRead := by
  obtain ⟨⟨route, endpoint⟩, -, h⟩ := Option.bind_eq_some_iff.mp h
  obtain ⟨caller, -, h⟩ := Option.bind_eq_some_iff.mp h
  exact Endpoint.isRead_of_call? h

end Api

namespace Served

/-- The users that a call was answered with. -/
def users (served : Served) : List User :=
  (served.result.toOption.map served.call.users).getD []

/-- An update that was answered named a user and took the gender away. -/
def ClearsGender (served : Served) (id : Int) : Prop :=
  ∃ caller payload free user, served = ⟨.updateUser caller id payload, free, .ok user⟩
    ∧ payload.gender = some none

end Served

/-- What is known of a user after what was served. -/
structure User.Accounted (history : List Served) (u : User) : Prop where
  regular : u.IsRegular
  gender : u.gender = none → ∃ served ∈ history, served.ClearsGender u.id

theorem User.Accounted.append {history : List Served} {u : User} (h : u.Accounted history)
    (more : List Served) : u.Accounted (history ++ more) where
  regular := h.regular
  gender hnone := by
    obtain ⟨served, hmem, hclears⟩ := h.gender hnone
    exact ⟨served, List.mem_append_left _ hmem, hclears⟩

namespace World

variable {w : World}

/-- The clock goes on showing times that can be shown. -/
theorem Settled.inRange_step (h : w.Settled) (hnow : Timestamp.inRange w.now = true) {event : Event}
    (hproper : event.IsProper) : Timestamp.inRange (w.step event).now = true := by
  cases event with
  | request setup request =>
      obtain ⟨commit, -, hafter⟩ := Api.exchange_commits h.at_store h.sound setup request
      rw [show (w.step (.request setup request)).now = w.now from hafter.at_apply.now]
      exact hnow
  | call call =>
      have hstep : (call.op.exec w).2.now = w.now := by
        rcases (call.op_does h.at_store h.sound).cases with
          ⟨failure, w', hexec, commit, -, hafter⟩ | ⟨answer, w', hexec, commit, -, hafter⟩
        all_goals
          rw [hexec]
          exact hafter.at_apply.now
      rw [show (w.step (.call call)).now = w.now from hstep]
      exact hnow
  | meanwhile now slots supply requests => exact hproper

theorem inRange_run {start : World} (hstart : start.IsInitial)
    (hnow : Timestamp.inRange start.now = true) {events : List Event}
    (hproper : ∀ event ∈ events, event.IsProper) :
    Timestamp.inRange (start.run events).now = true := by
  induction events using List.reverseRecOn with
  | nil => exact hnow
  | append_singleton events event ih =>
      rw [run_concat]
      exact (hstart.settled.run events).inRange_step
        (ih fun other hmem => hproper other (List.mem_append_left _ hmem))
        (hproper event (List.mem_append_right _ (List.mem_singleton_self event)))

/-- The call that a proper event comes to was given what was read. -/
theorem isRead_of_callOf? {event : Event} (hproper : event.IsProper) {call : Call}
    (h : w.callOf? event = some call) : call.IsRead := by
  cases event with
  | request setup request => exact Api.isRead_of_callOf? h
  | call made =>
      cases h
      exact hproper
  | meanwhile => cases h

/-- A call leaves every row accounted for. -/
theorem Settled.accounted_exec (h : w.Settled) (hnow : Timestamp.inRange w.now = true)
    {history : List Served} {call : Call} (hread : call.IsRead)
    (hold : ∀ id user, w.store.users.get? id = some user → user.Accounted history) {id : Int}
    {user : User} (huser : (call.op.exec w).2.store.users.get? id = some user) :
    user.Accounted (history ++ [call.servedIn w]) := by
  by_cases hsame : w.store.users.get? id = some user
  · exact (hold id user hsame).append _
  have hid : user.id = id := ((h.step (.call call)).sound.user_id huser).1
  rcases h.row_exec call huser with hsame' | ⟨before, hbefore, rfl⟩ | ⟨-, sagaId, hnewcomer⟩
  · exact absurd hsame' hsame
  · have haccounted := hold id before hbefore
    refine ⟨Call.isRegular_revised hread hnow haccounted.regular, fun hnone => ?_⟩
    rw [hid]
    rcases Call.gender_revised hnone with hmissing | ⟨caller, target, payload, rfl, hclears⟩
    · obtain ⟨served, hmem, hserved⟩ := haccounted.gender hmissing
      rw [(h.sound.user_id hbefore).1] at hserved
      exact ⟨served, List.mem_append_left _ hmem, hserved⟩
    · obtain ⟨hanswer, rfl⟩ := h.row_updateUser hsame huser
      exact ⟨_, List.mem_append_right _ (List.mem_singleton_self _), caller, payload,
        w.slots.isFree, _, congrArg (Served.mk (.updateUser caller target payload) _) hanswer,
        hclears⟩
  · obtain ⟨hregular, hgender⟩ := Call.isRegular_of_newcomer? hnewcomer hnow
    exact ⟨hregular, fun hnone => absurd hnone hgender⟩

/-- A user that a call was answered with has the answer as the row. -/
theorem Settled.stored_of_answered (h : w.Settled) {call : Call} {user : User}
    (hmem : user ∈ (call.servedIn w).users) :
    (call.op.exec w).2.store.users.get? user.id = some user := by
  change user ∈ ((call.op.exec w).1.toOption.map call.users).getD [] at hmem
  cases hresult : (call.op.exec w).1 with
  | error failure =>
      rw [hresult] at hmem
      cases hmem
  | ok answer =>
      rw [hresult] at hmem
      exact h.exec_answers hresult hmem

/-- Along every run, all users that are stored or were answered are accounted for. -/
theorem accounted_run {start : World} (hstart : start.IsInitial)
    (hnow : Timestamp.inRange start.now = true) {events : List Event}
    (hproper : ∀ event ∈ events, event.IsProper) :
    (∀ id user, (start.run events).store.users.get? id = some user →
        user.Accounted (start.history events))
      ∧ ∀ served ∈ start.history events, ∀ user ∈ served.users,
        user.Accounted (start.history events) := by
  induction events using List.reverseRecOn with
  | nil =>
      refine ⟨fun id user huser => ?_, fun served hmem => nomatch hmem⟩
      rw [show (start.run []).store = .empty from hstart.store] at huser
      cases huser
  | append_singleton events event ih =>
      have hbefore : ∀ other ∈ events, other.IsProper := fun other hmem =>
        hproper other (List.mem_append_left _ hmem)
      obtain ⟨hstored, hanswered⟩ := ih hbefore
      have hw : (start.run events).Settled := hstart.settled.run events
      rw [run_concat, step_store, history_concat]
      cases hcall : (start.run events).callOf? event with
      | none =>
          rw [Option.map_none, Option.toList_none, List.append_nil]
          exact ⟨hstored, hanswered⟩
      | some call =>
          have hread : call.IsRead := isRead_of_callOf?
            (hproper event (List.mem_append_right _ (List.mem_singleton_self event))) hcall
          have hafter : ∀ id user,
              (call.op.exec (start.run events)).2.store.users.get? id = some user →
              user.Accounted (start.history events ++ [call.servedIn (start.run events)]) :=
            fun _ _ => hw.accounted_exec (inRange_run hstart hnow hbefore) hread hstored
          refine ⟨hafter, fun served hmem user huser => ?_⟩
          rcases List.mem_append.mp hmem with hold | hnew
          · exact (hanswered served hold user huser).append _
          · obtain rfl := List.mem_singleton.mp hnew
            exact hafter user.id user (hw.stored_of_answered huser)

end World

/-- **Users are read back.** Whatever requests and calls a server gets, every user that is stored
and every user that was answered is regular: its flags are there, its names are missing or not
empty, and its times are ones that their text shows in full. Its record is read as the same user
again, whatever the time and the fresh saga id, if and only if it has a gender; and it has none only
if an update that was answered named the user and took the gender away. -/
theorem users_read_back {start : World} (hstart : start.IsInitial)
    (hnow : Timestamp.inRange start.now = true) (events : List Event)
    (hproper : ∀ event ∈ events, event.IsProper) (user : User)
    (huser : (∃ id, (start.run events).store.users.get? id = some user)
      ∨ ∃ served ∈ start.history events, user ∈ served.users) :
    user.IsRegular ∧ (user.ReadsBack ↔ user.gender.isSome)
      ∧ (user.gender = none → ∃ served ∈ start.history events, served.ClearsGender user.id) := by
  obtain ⟨hstored, hanswered⟩ := World.accounted_run hstart hnow hproper
  have haccounted : user.Accounted (start.history events) := by
    rcases huser with ⟨id, huser⟩ | ⟨served, hmem, huser⟩
    · exact hstored id user huser
    · exact hanswered served hmem user huser
  exact ⟨haccounted.regular, haccounted.regular.readsBack_iff, haccounted.gender⟩

/-- An update takes the gender of a user away, who is not read back then. -/
theorem users_read_back_of_update :
    let profile := Profile.google (.text "7") "ann@example.com" none none none none true
    let cleared : UpdateProfile := ⟨none, none, none, none, some none, none⟩
    let start : World := ⟨0, .empty, .empty 600 0, ⟨1, 0, true⟩, .start [], []⟩
    let events := [.call (.createOrLink profile Email.isAddress_plain),
      .call (.updateUser .system 1 cleared)]
    ∃ user, (start.run events).store.users.get? 1 = some user ∧ user.IsRegular ∧ ¬user.ReadsBack
      ∧ ∃ served ∈ start.history events, served.ClearsGender 1 := by
  intro profile cleared start events
  obtain ⟨user, huser⟩ : ∃ user, (start.run events).store.users.get? 1 = some user :=
    Option.isSome_iff_exists.mp (by decide +kernel)
  have hgender : ((start.run events).store.users.get? 1).map (·.gender) = some none := by
    decide +kernel
  rw [huser] at hgender
  have hgender : user.gender = none := Option.some.inj hgender
  have hid : ((start.run events).store.users.get? 1).map (·.id) = some 1 := by decide +kernel
  rw [huser] at hid
  have hid : user.id = 1 := Option.some.inj hid
  have hstart : start.IsInitial := ⟨rfl, rfl⟩
  obtain ⟨hregular, hreads, hcleared⟩ := users_read_back hstart (by decide) events
    (by
      intro event hmem
      simp only [events, List.mem_cons, List.not_mem_nil, or_false] at hmem
      rcases hmem with rfl | rfl
      · trivial
      · exact ⟨[(.text "gender", .null)], rfl⟩)
    user (Or.inl ⟨1, huser⟩)
  refine ⟨user, huser, hregular, fun h => ?_, hid ▸ hcleared hgender⟩
  have hsome := hreads.mp h
  rw [hgender] at hsome
  cases hsome

end Accounts
