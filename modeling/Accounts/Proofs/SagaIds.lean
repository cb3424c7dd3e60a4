import Accounts.Proofs.Rows
import Accounts.Proofs.TwoRuns

/-!
# Users by their saga ids

A user gets a saga id when the user is made and keeps it for good. So the saga ids of the store are
told by the users who were made in the run, in the order in which they were made
(`World.sagaIds_run`), and the first user of the table who has a saga id is the first who got it.

Whoever signs up may send a saga id along, and it is taken as it is. Nobody compares it with those
that are there: users have saga ids of their own exactly if nobody who signed up sent one that
somebody had before (`users_by_saga_id`).
-/

namespace Accounts

open Op

/-! ## Saga ids stay -/

/-- Who has which saga id, in the order in which the users were made. -/
def Store.sagaIds (s : Store) : List (Int × JsonString) :=
  s.users.map fun entry => (entry.1, entry.2.sagaId)

namespace Commit

variable {s : Store} {commit : Commit}

/-- What a commit does to the users: it replaces a row, or adds one, or does nothing. -/
theorem users_cases (h : commit.Admissible s) :
    (∃ before after, commit.revision? = some (before, after)
        ∧ s.users.get? after.id = some before
        ∧ (commit.apply s).users = s.users.put after.id after)
      ∨ (∃ user, user.id = s.nextUserId ∧ (commit.apply s).users = s.users.put user.id user)
      ∨ (commit.apply s).users = s.users := by
  have hreplaced : ∀ {before after : User}, Replaces s before after →
      s.users.get? after.id = some before :=
    fun h => h.continues.id ▸ h.found
  cases commit with
  | revise before after => exact Or.inl ⟨before, after, rfl, hreplaced h, rfl⟩
  | enroll user identity role => exact Or.inr (Or.inl ⟨user, h.1, rfl⟩)
  | link before after identity => exact Or.inl ⟨before, after, rfl, hreplaced h.1, rfl⟩
  | repassword before after identity => exact Or.inl ⟨before, after, rfl, hreplaced h.1, rfl⟩
  | reset row before after identity => exact Or.inl ⟨before, after, rfl, hreplaced h.2.2.2.1, rfl⟩
  | verify row before after identity => exact Or.inl ⟨before, after, rfl, hreplaced h.2.2.2.1, rfl⟩
  | _ => exact Or.inr (Or.inr rfl)

end Commit

/-- No change of a row changes the saga id. -/
theorem Call.revised_sagaId (call : Call) (time : Int) (user : User) :
    (call.revised time user).sagaId = user.sagaId := by
  cases call with
  | signInWithProvider codec providers provider payload =>
      unfold Call.revised
      dsimp only
      cases SignIn.fetched providers provider payload.token <;> rfl
  | _ => rfl

theorem Store.Sound.mem_sagaIds {s : Store} (hs : s.Sound) {id : Int} {sagaId : JsonString} :
    (id, sagaId) ∈ s.sagaIds ↔ ∃ user, s.users.get? id = some user ∧ user.sagaId = sagaId := by
  simp only [Store.sagaIds, List.mem_map, Prod.mk.injEq, Prod.exists, hs.users_unique.get?_iff]
  constructor
  · rintro ⟨key, user, hmem, rfl, rfl⟩
    exact ⟨user, hmem, rfl⟩
  · rintro ⟨user, hmem, rfl⟩
    exact ⟨id, user, hmem, rfl, rfl⟩

theorem Store.Sound.next_free {s : Store} (hs : s.Sound) : s.users.get? s.nextUserId = none := by
  refine Option.eq_none_iff_forall_ne_some.mpr fun user huser => ?_
  have := (hs.user_id huser).2.2
  omega

namespace World

variable {w : World}

/-- The saga ids after a call are those from before and that of the user whom the call made. -/
theorem Settled.sagaIds_exec (h : w.Settled) (call : Call) :
    (call.op.exec w).2.store.sagaIds = w.store.sagaIds
      ++ (((call.op.exec w).2.store.users.get? w.store.nextUserId).map
        fun user => (user.id, user.sagaId)).toList := by
  obtain ⟨commit, hrecords, -, hadmissible, hstore⟩ := h.exec_records call
  rw [hstore]
  unfold Store.sagaIds
  rcases Commit.users_cases hadmissible with
    ⟨before, after, hrevision, hbefore, husers⟩ | ⟨user, hid, husers⟩ | husers <;> rw [husers]
  · have hne : after.id ≠ w.store.nextUserId := by
      have := (h.sound.user_id hbefore).2.2
      omega
    have hsame : after.sagaId = before.sagaId := by
      rw [hrecords.revises before after hrevision]
      exact call.revised_sagaId w.now before
    rw [Table.get?_put_of_ne _ _ hne, h.sound.next_free, Option.map_none, Option.toList_none,
      List.append_nil]
    exact Table.map_put_of_get? _ hbefore (Prod.ext rfl hsame)
  · rw [hid, Table.get?_put_self, Option.map_some, Option.toList_some,
      Table.put_of_get?_none h.sound.next_free, List.map_append, List.map_singleton, hid]
  · rw [h.sound.next_free, Option.map_none, Option.toList_none, List.append_nil]

end World

/-! ## Who was made -/

/-- A user who was made, and the saga id that was sent for the purpose. -/
structure Newcomer where
  user : User
  sent : Option JsonString

namespace World

/-- The saga id that an event sends along: that of somebody who signs up. -/
def sentSagaId? (w : World) (event : Event) : Option JsonString :=
  match w.callOf? event with
  | some (.createUser payload _) => payload.sagaId
  | _ => none

/-- The user whom an event makes. -/
def newcomer? (w : World) (event : Event) : Option Newcomer :=
  ((w.step event).store.users.get? w.store.nextUserId).map (⟨·, w.sentSagaId? event⟩)

/-- The users who are made in a run, as they were at first. -/
def newcomers (w : World) : List Event → List Newcomer
  | [] => []
  | event :: rest => (w.newcomer? event).toList ++ (w.step event).newcomers rest

theorem newcomers_concat (w : World) (events : List Event) (event : Event) :
    w.newcomers (events ++ [event])
      = w.newcomers events ++ ((w.run events).newcomer? event).toList := by
  induction events generalizing w with
  | nil => simp only [List.nil_append, newcomers, List.append_nil, run, List.foldl_nil]
  | cons first rest ih =>
      have hrun : w.run (first :: rest) = (w.step first).run rest := rfl
      simp only [List.cons_append, newcomers, ih, hrun, List.append_assoc]

variable {w : World}

theorem Settled.sagaIds_step (h : w.Settled) (event : Event) :
    (w.step event).store.sagaIds = w.store.sagaIds
      ++ ((w.newcomer? event).map fun made => (made.user.id, made.user.sagaId)).toList := by
  unfold newcomer?
  rw [Option.map_map, step_store]
  cases w.callOf? event with
  | none =>
      dsimp only
      rw [h.sound.next_free, Option.map_none, Option.toList_none, List.append_nil]
  | some call => exact h.sagaIds_exec call

/-- The saga ids of the store are those that the newcomers of the run got. -/
theorem sagaIds_run {start : World} (hstart : start.IsInitial) (events : List Event) :
    (start.run events).store.sagaIds
      = (start.newcomers events).map fun made => (made.user.id, made.user.sagaId) := by
  induction events using List.reverseRecOn with
  | nil =>
      have hstore : (start.run []).store = .empty := hstart.store
      rw [hstore]
      rfl
  | append_singleton events event ih =>
      rw [run_concat, (hstart.settled.run events).sagaIds_step, ih, newcomers_concat,
        List.map_append]
      cases (start.run events).newcomer? event <;> rfl

/-- Whoever is made a user is the next one. -/
theorem Settled.newcomer_id (h : w.Settled) {event : Event} {made : Newcomer}
    (hmade : w.newcomer? event = some made) : made.user.id = w.store.nextUserId := by
  obtain ⟨user, huser, rfl⟩ := Option.map_eq_some_iff.mp hmade
  exact ((h.step event).sound.user_id huser).1

/-- Ids are given out in increasing order. -/
theorem newcomers_increasing {start : World} (hstart : start.IsInitial) (events : List Event) :
    (start.newcomers events).Pairwise (·.user.id < ·.user.id) := by
  induction events using List.reverseRecOn with
  | nil => exact List.Pairwise.nil
  | append_singleton events event ih =>
      have hw : (start.run events).Settled := hstart.settled.run events
      rw [newcomers_concat]
      refine List.pairwise_append.mpr ⟨ih, ?_, fun earlier hearlier made hmade => ?_⟩
      · cases (start.run events).newcomer? event with
        | none => exact List.Pairwise.nil
        | some made => exact List.pairwise_singleton _ _
      · have hstored : (earlier.user.id, earlier.user.sagaId)
            ∈ (start.run events).store.sagaIds := by
          rw [sagaIds_run hstart]
          exact List.mem_map.mpr ⟨earlier, hearlier, rfl⟩
        obtain ⟨user, huser, -⟩ := hw.sound.mem_sagaIds.mp hstored
        rw [hw.newcomer_id (Option.mem_toList.mp hmade)]
        exact (hw.sound.user_id huser).2.2

end World

/-! ## Sent saga ids -/

namespace Op

variable {α β : Type} {P : α → Prop}

/-- Wherever `op` is started, the answer is one that `P` tells of. -/
def Answers (op : Op α) (P : α → Prop) : Prop :=
  ∀ w, op.Ends w (fun value _ => P value) (fun _ _ => True)

theorem answers_pure {value : α} (h : P value) : (pure value : Op α).Answers P := fun _ => h

theorem answers_any (op : Op α) : op.Answers fun _ => True := by
  intro w
  unfold Ends
  rcases op.exec w with ⟨failure | value, w'⟩ <;> trivial

theorem Answers.bind {op : Op α} {next : α → Op β} {Q : β → Prop} (h : op.Answers P)
    (hnext : ∀ value, P value → (next value).Answers Q) : (op >>= next).Answers Q :=
  fun w => (h w).next (fun value w' hvalue => hnext value hvalue w') fun _ _ h => h

/-- What comes in front makes no difference. -/
theorem answers_bind {op : Op α} {next : α → Op β} {Q : β → Prop}
    (hnext : ∀ value, (next value).Answers Q) : (op >>= next).Answers Q :=
  (answers_any op).bind fun value _ => hnext value

/-- A check in front makes no difference. -/
theorem answers_unless {op : Op α} {refused : Prop} [Decidable refused] {failure : Failure}
    (h : op.Answers P) :
    (if refused then (throw failure : Op PUnit) >>= fun _ => op else op).Answers P := by
  split
  · exact answers_bind fun _ => h
  · exact h

theorem answers_write {f : Store → Except ServiceError (α × Store)}
    (h : ∀ s value s', f s = .ok (value, s') → P value) : (write f).Answers P := by
  intro w
  rw [ends_write]
  cases hf : f w.store with
  | error error => trivial
  | ok written => exact h w.store _ _ hf

theorem Answers.withSlot {op : Op α} (h : op.Answers P) : (withSlot op).Answers P := by
  intro w
  rw [ends_withSlot]
  split
  · exact h _
  · trivial

end Op

/-- A saga id that was sent along is taken as it is. -/
theorem Users.create_sagaId {payload : NewIdentity} {sent : JsonString}
    (hsent : payload.sagaId = some sent) : (create payload).Answers (·.sagaId = sent) := by
  have henroll : (enroll payload).Answers (·.sagaId = sent) := by
    unfold enroll
    rw [hsent, sagaIdOr, pure_bind]
    refine Answers.withSlot (answers_bind fun taken => answers_unless ?_)
    refine answers_bind fun newUser => answers_bind fun now => ?_
    have hcreate : (write (·.createUser now sent newUser)).Answers (·.sagaId = sent) := by
      refine answers_write fun s user s' hwritten => ?_
      unfold Store.createUser at hwritten
      split at hwritten
      · cases hwritten
      · cases hwritten
        rfl
    refine hcreate.bind fun user huser => ?_
    refine answers_bind fun password => answers_bind fun _ => answers_bind fun _ => ?_
    exact answers_pure huser
  exact henroll.bind fun user huser => answers_bind fun _ => answers_pure huser

/-! ## Looking users up -/

namespace Store

variable {s : Store} {caller : Caller}

/-- Who may read users may read each of them. -/
theorem Permits.read (h : s.Permits caller .users .read []) (targets : List Target) :
    s.Permits caller .users .read targets := by
  unfold Permits at h ⊢
  cases hauthority : caller.authority with
  | system => rfl
  | nobody =>
      rw [hauthority] at h
      cases h
  | user id =>
      rw [hauthority] at h
      refine PermissionTable.application_permits_iff.mpr ?_
      exact (PermissionTable.application_permits_iff.mp h).imp_right fun hrole =>
        ⟨hrole.1, Or.inl ⟨rfl, rfl⟩⟩

/-- The user who is found is the first of those who have the saga id. -/
theorem Sound.findUserBySagaId_first (hs : s.Sound) (hincreasing : s.users.keys.Pairwise (· < ·))
    {user : User} (huser : s.users.get? user.id = some user) :
    ∃ found, s.findUserBySagaId user.sagaId = some found
      ∧ s.users.get? found.id = some found ∧ found.sagaId = user.sagaId
      ∧ ∀ other, s.users.get? other.id = some other → other.sagaId = user.sagaId →
        found.id ≤ other.id := by
  have hkeys : s.users.values.map (·.id) = s.users.keys := by
    unfold Table.values Table.keys
    rw [List.map_map]
    refine List.map_congr_left fun entry hentry => ?_
    exact (hs.user_id (hs.users_unique.get?_iff.mpr hentry)).1
  have hvalue : ∀ {other}, other ∈ s.users.values ↔ s.users.get? other.id = some other := by
    intro other
    rw [Table.mem_values_iff hs.users_unique]
    exact ⟨fun ⟨id, hid⟩ => (hs.user_id hid).1 ▸ hid, fun hid => ⟨_, hid⟩⟩
  have hsome : (s.findUserBySagaId user.sagaId).isSome :=
    List.find?_isSome.mpr ⟨user, hvalue.mpr huser, beq_self_eq_true _⟩
  obtain ⟨found, hfound⟩ := Option.isSome_iff_exists.mp hsome
  obtain ⟨hsame, front, behind, hsplit, hfront⟩ := List.find?_eq_some_iff_append.mp hfound
  have hmem : found ∈ s.users.values := List.mem_of_find?_eq_some hfound
  refine ⟨found, hfound, hvalue.mp hmem, beq_iff_eq.mp hsame, fun other hother hothers => ?_⟩
  rw [← hkeys, hsplit, List.pairwise_map] at hincreasing
  rcases List.mem_append.mp (hsplit ▸ hvalue.mpr hother) with hbefore | hafter
  · have := hfront other hbefore
    rw [hothers, beq_self_eq_true] at this
    cases this
  · rcases List.mem_cons.mp hafter with rfl | hlater
    · exact le_refl _
    · have hsuffix := (List.pairwise_append.mp hincreasing).2.1
      exact ((List.pairwise_cons.mp hsuffix).1 other hlater).le

end Store

/-- Whoever may read users gets the user who is found. -/
theorem Users.findBySagaId_exec {w : World} {s : Store} (hw : w.At w.now s) {caller : Caller}
    (hpermits : s.Permits caller .users .read []) (hfree : w.slots.isFree = true)
    {sagaId : JsonString} {user : User} (hfind : s.findUserBySagaId sagaId = some user) :
    ((findBySagaId caller sagaId).exec w).1 = .ok user := by
  obtain ⟨cache, ⟨hmay, -⟩ | ⟨-, hdenied⟩, hagrees, -⟩ :=
    require_exec hw (fun _ _ => Or.inl hfree) .users .read []
  · have hw' : World.At { w with cache } w.now s := ⟨rfl, hw.store, hagrees⟩
    obtain ⟨cache', ⟨hmay', -⟩ | ⟨-, hdenied⟩, -⟩ :=
      require_exec hw' (fun _ _ => Or.inl hfree) .users .read (targetOf user)
    · have hread : (withSlot (read (·.findUserBySagaId sagaId))).exec { w with cache }
          = (.ok (some user), { w with cache }) := by
        rw [readBack_exec hw' hfree, hfind]
      unfold findBySagaId readable
      rw [exec_bind, hmay]
      dsimp only
      rw [exec_bind, hread]
      dsimp only
      rw [found, pure_bind, exec_bind, hmay']
      rfl
    · exact absurd (hpermits.read _) hdenied
  · exact absurd hpermits hdenied

namespace World

variable {start : World}

/-- What was sent along is what the newcomer got. -/
theorem Settled.newcomer_sent {w : World} (h : w.Settled) {event : Event} {made : Newcomer}
    (hmade : w.newcomer? event = some made) {sent : JsonString} (hsent : made.sent = some sent) :
    made.user.sagaId = sent := by
  obtain ⟨user, huser, rfl⟩ := Option.map_eq_some_iff.mp hmade
  change w.sentSagaId? event = some sent at hsent
  rw [step_store] at huser
  unfold sentSagaId? at hsent
  split at hsent
  · rename_i payload address hcall
    rw [hcall] at huser
    have hsagaId := Users.create_sagaId hsent w
    rcases (Users.create_makes h.at_store h.sound address).cases with
      ⟨failure, w', hexec, commit, rfl, hafter⟩ |
      ⟨answer, w', hexec, commit, ⟨⟨identity, role, rfl, -⟩, -⟩, hafter⟩
    all_goals
      have hop : ((Call.createUser payload address).op.exec w).2.store = w'.store :=
        congrArg (fun ended => ended.2.store) hexec
      dsimp only at huser
      rw [hop, hafter.at_apply.store] at huser
    · exact absurd huser (by rw [Commit.apply, h.sound.next_free]; simp)
    · have hid : answer.id = w.store.nextUserId := hafter.admissible.1
      have hthere := (Commit.newUser?_spec h.sound hafter.admissible rfl).2.1
      rw [hid, huser] at hthere
      unfold Ends at hsagaId
      rw [hexec] at hsagaId
      exact Option.some.inj hthere ▸ hsagaId
  · cases hsent

theorem newcomers_sent (hstart : start.IsInitial) (events : List Event) :
    ∀ made ∈ start.newcomers events, ∀ sent, made.sent = some sent → made.user.sagaId = sent := by
  induction events using List.reverseRecOn with
  | nil => exact fun _ h => nomatch h
  | append_singleton events event ih =>
      rw [newcomers_concat]
      refine List.forall_mem_append.mpr ⟨ih, fun made hmade sent hsent => ?_⟩
      exact (hstart.settled.run events).newcomer_sent (Option.mem_toList.mp hmade) hsent

/-- The table of users is in the order of their ids. -/
theorem keys_increasing (hstart : start.IsInitial) (events : List Event) :
    (start.run events).store.users.keys.Pairwise (· < ·) := by
  have hkeys : (start.run events).store.users.keys
      = (start.newcomers events).map (·.user.id) := by
    have hids := congrArg (List.map Prod.fst) (sagaIds_run hstart events)
    rw [Store.sagaIds, List.map_map, List.map_map] at hids
    exact hids
  rw [hkeys, List.pairwise_map]
  exact newcomers_increasing hstart events

/-- Users have saga ids of their own exactly if the newcomers got such ones. -/
theorem sagaIds_distinct_iff (hstart : start.IsInitial) (events : List Event) :
    (∀ user other, (start.run events).store.users.get? user.id = some user →
        (start.run events).store.users.get? other.id = some other →
        user.sagaId = other.sagaId → user = other)
      ↔ (start.newcomers events).Pairwise fun earlier later =>
        earlier.user.sagaId ≠ later.user.sagaId := by
  have hw : (start.run events).Settled := hstart.settled.run events
  have hsagaIds := sagaIds_run hstart events
  constructor
  · intro hdistinct
    have hstored : ∀ made ∈ start.newcomers events, ∃ user,
        (start.run events).store.users.get? user.id = some user ∧ user.id = made.user.id
          ∧ user.sagaId = made.user.sagaId := by
      intro made hmade
      obtain ⟨user, huser, hsame⟩ :=
        hw.sound.mem_sagaIds.mp (hsagaIds ▸ List.mem_map.mpr ⟨made, hmade, rfl⟩)
      have hid := (hw.sound.user_id huser).1
      exact ⟨user, hid ▸ huser, hid, hsame⟩
    refine (newcomers_increasing hstart events).imp_of_mem fun {earlier later} he hl hlt hsame => ?_
    obtain ⟨user, huser, hid, hsagaId⟩ := hstored earlier he
    obtain ⟨other, hother, hid', hsagaId'⟩ := hstored later hl
    have heq := hdistinct user other huser hother (by rw [hsagaId, hsagaId', hsame])
    rw [← hid, ← hid', heq] at hlt
    exact lt_irrefl _ hlt
  · intro hpairwise user other huser hother hsame
    have hmade : ∀ user : User, (start.run events).store.users.get? user.id = some user →
        ∃ made ∈ start.newcomers events, made.user.id = user.id
          ∧ made.user.sagaId = user.sagaId := by
      intro user huser
      have hmem := hw.sound.mem_sagaIds.mpr ⟨user, huser, rfl⟩
      obtain ⟨made, hmade, heq⟩ := List.mem_map.mp (hsagaIds ▸ hmem)
      exact ⟨made, hmade, (Prod.mk.inj heq).1, (Prod.mk.inj heq).2⟩
    obtain ⟨made, hmem, hid, hsagaId⟩ := hmade user huser
    obtain ⟨made', hmem', hid', hsagaId'⟩ := hmade other hother
    have hnodup : ((start.newcomers events).map (·.user.sagaId)).Nodup :=
      List.pairwise_map.mpr hpairwise
    obtain rfl := List.inj_on_of_nodup_map hnodup hmem hmem' (by rw [hsagaId, hsagaId', hsame])
    rw [← hid, hid', hother] at huser
    exact (Option.some.inj huser).symm

end World

/-- **A user is looked up by a saga id that nobody had before.** A saga id that is sent along is
taken as it is, and whoever may read users gets the first user made with the saga id in question.
Users have saga ids of their own exactly if nobody who signed up sent one that somebody made
before has, and then every user is found by the own one. What is asked of the service itself is
that a saga id which it generates is nobody's yet. -/
theorem users_by_saga_id {start : World} (hstart : start.IsInitial) (events : List Event)
    (hgenerated : (start.newcomers events).Pairwise fun earlier later =>
      later.sent = none → earlier.user.sagaId ≠ later.user.sagaId) :
    let w := start.run events
    let newcomers := start.newcomers events
    let Stored (user : User) := w.store.users.get? user.id = some user
    (∀ made ∈ newcomers, ∀ sent, made.sent = some sent → made.user.sagaId = sent)
      ∧ (∀ user caller, Stored user → w.store.Permits caller .users .read [] →
        w.slots.isFree = true →
        ∃ found, ((Users.findBySagaId caller user.sagaId).exec w).1 = .ok found ∧ Stored found
          ∧ found.sagaId = user.sagaId
          ∧ ∀ other, Stored other → other.sagaId = user.sagaId → found.id ≤ other.id)
      ∧ ((∀ user other, Stored user → Stored other → user.sagaId = other.sagaId → user = other)
        ↔ newcomers.Pairwise fun earlier later => later.sent ≠ some earlier.user.sagaId)
      ∧ ((newcomers.Pairwise fun earlier later => later.sent ≠ some earlier.user.sagaId) →
        ∀ user caller, Stored user → w.store.Permits caller .users .read [] →
          w.slots.isFree = true →
          ((Users.findBySagaId caller user.sagaId).exec w).1 = .ok user) := by
  intro w newcomers Stored
  have hw : w.Settled := hstart.settled.run events
  have hsent := World.newcomers_sent hstart events
  have hlookup : ∀ user caller, Stored user → w.store.Permits caller .users .read [] →
      w.slots.isFree = true →
      ∃ found, ((Users.findBySagaId caller user.sagaId).exec w).1 = .ok found ∧ Stored found
        ∧ found.sagaId = user.sagaId
        ∧ ∀ other, Stored other → other.sagaId = user.sagaId → found.id ≤ other.id := by
    intro user caller huser hpermits hfree
    obtain ⟨found, hfound, hfirst⟩ :=
      hw.sound.findUserBySagaId_first (World.keys_increasing hstart events) huser
    exact ⟨found, Users.findBySagaId_exec hw.at_store hpermits hfree hfound, hfirst⟩
  have hdistinct : (∀ user other, Stored user → Stored other → user.sagaId = other.sagaId →
        user = other)
      ↔ newcomers.Pairwise fun earlier later => later.sent ≠ some earlier.user.sagaId := by
    refine (World.sagaIds_distinct_iff hstart events).trans ⟨fun h => ?_, fun h => ?_⟩
    · refine h.imp_of_mem fun {earlier later} _ hlater hne hsame => ?_
      exact hne (hsent later hlater _ hsame).symm
    · refine (hgenerated.and h).imp_of_mem fun {earlier later} _ hlater hboth hsame => ?_
      cases hcase : later.sent with
      | none => exact hboth.1 hcase hsame
      | some sent => exact hboth.2 (by rw [hcase, hsame, hsent later hlater sent hcase])
  refine ⟨hsent, hlookup, hdistinct, fun hfresh user caller huser hpermits hfree => ?_⟩
  obtain ⟨found, hfound, hstored, hsame, -⟩ := hlookup user caller huser hpermits hfree
  rw [hfound, hdistinct.mpr hfresh found user hstored huser hsame]

/-- Somebody signs up with a saga id, and another one comes from another provider and gets one. -/
theorem users_by_saga_id_of_two :
    let start : World := ⟨0, .empty, .empty 600 0, ⟨1, 0, true⟩, .start [], []⟩
    let events : List Event :=
      [.call (.createUser ⟨"ann@example.com", "password1", some (.text "s")⟩ Email.isAddress_plain),
        .call (.createOrLink (.google (.text "7") "bob@example.com" none none none none true)
          ⟨"bob@example.com", by decide +kernel⟩)]
    let ann : Caller := ⟨some 1, some (.text "ann@example.com"), .user 1⟩
    ∃ bob, (start.run events).store.users.get? 2 = some bob
      ∧ ((Users.findBySagaId ann bob.sagaId).exec (start.run events)).1 = .ok bob := by
  intro start events ann
  have hstart : start.IsInitial := ⟨rfl, rfl⟩
  obtain ⟨hsome, hfree, hgenerated, hfresh⟩ :
      ((start.run events).store.users.get? 2).isSome = true
        ∧ (start.run events).slots.isFree = true
        ∧ ((start.newcomers events).Pairwise fun earlier later =>
          later.sent = none → earlier.user.sagaId ≠ later.user.sagaId)
        ∧ (start.newcomers events).Pairwise fun earlier later =>
          later.sent ≠ some earlier.user.sagaId := by
    decide +kernel
  obtain ⟨bob, hbob⟩ := Option.isSome_iff_exists.mp hsome
  have hid : bob.id = 2 := ((hstart.settled.run events).sound.user_id hbob).1
  have hstored : (start.run events).store.users.get? bob.id = some bob := hid ▸ hbob
  have hpermits : (start.run events).store.Permits ann .users .read [] := by
    unfold Store.Permits
    decide +kernel
  obtain ⟨-, -, -, hfound⟩ := users_by_saga_id hstart events hgenerated
  exact ⟨bob, hbob, hfound hfresh bob ann hstored hpermits hfree⟩

/-- Two users sign up with the same saga id, and the second one looks up the own. -/
theorem users_by_saga_id_sent_twice :
    ¬∀ (start : World) (events : List Event), start.IsInitial →
      ((start.newcomers events).Pairwise fun earlier later =>
        later.sent = none → earlier.user.sagaId ≠ later.user.sagaId) →
      ∀ (user : User) (caller : Caller),
        (start.run events).store.users.get? user.id = some user →
        (start.run events).store.Permits caller .users .read [] →
        (start.run events).slots.isFree = true →
        ((Users.findBySagaId caller user.sagaId).exec (start.run events)).1 = .ok user := by
  intro hclaim
  let start : World := ⟨0, .empty, .empty 600 0, ⟨1, 0, true⟩, .start [], []⟩
  let events : List Event :=
    [.call (.createUser ⟨"ann@example.com", "password1", some (.text "s")⟩ Email.isAddress_plain),
      .call (.createUser ⟨"bob@example.com", "password1", some (.text "s")⟩
        ⟨"bob@example.com", by decide +kernel⟩)]
  let bob : Caller := ⟨some 2, some (.text "bob@example.com"), .user 2⟩
  have hstart : start.IsInitial := ⟨rfl, rfl⟩
  obtain ⟨hsaved, hfree, hgenerated, hfirst⟩ :
      ((start.run events).store.users.get? 2).map (·.sagaId) = some (.text "s")
        ∧ (start.run events).slots.isFree = true
        ∧ ((start.newcomers events).Pairwise fun earlier later =>
          later.sent = none → earlier.user.sagaId ≠ later.user.sagaId)
        ∧ ((Users.findBySagaId bob (.text "s")).exec (start.run events)).1.toOption.map (·.id)
          = some 1 := by
    decide +kernel
  obtain ⟨user, huser, hsagaId⟩ := Option.map_eq_some_iff.mp hsaved
  have hid : user.id = 2 := ((hstart.settled.run events).sound.user_id huser).1
  have hpermits : (start.run events).store.Permits bob .users .read [] := by
    unfold Store.Permits
    decide +kernel
  have hanswer := hclaim start events hstart hgenerated user bob (hid ▸ huser) hpermits hfree
  rw [← hsagaId, hanswer] at hfirst
  have hone : user.id = 1 := Option.some.inj hfirst
  rw [hid] at hone
  cases hone

end Accounts
