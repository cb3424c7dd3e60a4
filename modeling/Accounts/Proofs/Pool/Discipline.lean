import Accounts.Proofs.Pool.Moves
import Accounts.World

/-!
# What a pool owes to those who come

A run is a list of moves, and what moves keep adds up (`Machine.Follows`): nobody overtakes in the
line, and whoever came in is inside or has left. From that follows the discipline of the pool over
all orders of events. A name stands for one passage through the block, so it arrives once.

The operations of the services take one slot each for their time; a last theorem says that such an
operation is a visit to the pool.
-/

namespace Accounts.Pool

variable {ε : Type}

namespace Machine

/-! ## What a run keeps -/

/-- A pool after some time: who arrived, who came into the block and who left it since. -/
structure Follows (m : Machine ε) (joined came went : List String) (m' : Machine ε) : Prop where
  orderly : m'.Orderly
  size : m'.size = m.size
  keys : m'.status.keys = m.status.keys ++ joined
  /-- Those who came in were always first in line, so together with those who still wait they
  keep the order of arrival. -/
  line : (came ++ m'.waiting).Sublist (m.waiting ++ joined)
  passages : (went ++ m'.holders).Perm (came ++ m.holders)
  ended : ∀ {name status}, m.status.get? name = some status → status.IsOver →
    m'.status.get? name = some status

theorem Orderly.follows_self {m : Machine ε} (h : m.Orderly) : m.Follows [] [] [] m where
  orderly := h
  size := rfl
  keys := by simp
  line := by simp
  passages := .refl _
  ended := fun hget _ => hget

theorem Follows.trans {m₁ m₂ m₃ : Machine ε} {joined joined' came came' went went' : List String}
    (h : m₁.Follows joined came went m₂) (h' : m₂.Follows joined' came' went' m₃) :
    m₁.Follows (joined ++ joined') (came ++ came') (went ++ went') m₃ where
  orderly := h'.orderly
  size := h'.size.trans h.size
  keys := by rw [h'.keys, h.keys, List.append_assoc]
  line := by
    have hlater := h'.line.append_left came
    have hearlier := h.line.append_right joined'
    simp only [← List.append_assoc] at hlater hearlier ⊢
    exact hlater.trans hearlier
  passages := by
    calc went ++ went' ++ m₃.holders
        _ = went ++ (went' ++ m₃.holders) := List.append_assoc ..
        List.Perm _ (went ++ (came' ++ m₂.holders)) := h'.passages.append_left went
        List.Perm _ (came' ++ (went ++ m₂.holders)) := List.perm_append_comm_assoc ..
        List.Perm _ (came' ++ (came ++ m₁.holders)) := h.passages.append_left came'
        List.Perm _ (came ++ (came' ++ m₁.holders)) := List.perm_append_comm_assoc ..
        _ = came ++ came' ++ m₁.holders := (List.append_assoc ..).symm
  ended := fun hget hover => h'.ended (h.ended hget hover) hover

theorem Move.follows {m m' : Machine ε} {joined came went : List String} (h : m.Orderly)
    (hmove : m.Move joined came went m') : m.Follows joined came went m' where
  orderly := hmove.orderly h
  size := hmove.counters.1
  keys := hmove.keys h
  line := hmove.line
  passages := by
    rw [← hmove.entered h, ← hmove.left h]
    exact left_append_holders h.unique (hmove.unique h)
  ended := hmove.ended h

/-- Slots are conserved: those taken from the free ones and those given back make up the change. -/
theorem Follows.slots {m m' : Machine ε} {joined came went : List String} (h : m.Orderly)
    (hf : m.Follows joined came went m') : m'.free + came.length = m.free + went.length := by
  have hperm := hf.passages.length_eq
  rw [List.length_append, List.length_append] at hperm
  have := h.counted
  have := h.conserved
  have := hf.orderly.counted
  have := hf.orderly.conserved
  have := hf.size
  omega

theorem follows_expire {m : Machine ε} (h : m.Orderly) (names : List String) :
    m.Follows [] [] [] (names.foldl expire m) := by
  induction names generalizing m with
  | nil => exact h.follows_self
  | cons name rest ih =>
      have hfirst := (move_expire m name).follows h
      exact hfirst.trans (ih hfirst.orderly)

theorem follows_step {m : Machine ε} (h : m.Orderly) {event : Event ε}
    (new : ∀ name ∈ event.arriving, m.status.get? name = none) :
    m.Follows event.arriving (m.entered (m.step event)) (m.left (m.step event))
      (m.step event) := by
  by_cases hone : event = .timeout
  · subst hone
    have hf : m.Follows [] [] [] (m.step .timeout) := follows_expire h m.waiting
    have hheld (name : String) :
        (m.step .timeout).status.get? name = some .held ↔ m.status.get? name = some .held := by
      rw [← mem_holders h.unique, ← mem_holders hf.orderly.unique]
      exact hf.passages.mem_iff
    have hnone : ([] : List String).length ≤ 1 := Nat.zero_le 1
    rwa [left, entered_eq h.unique hf.orderly.unique hnone (by simp [hheld]),
      entered_eq hf.orderly.unique h.unique hnone (by simp [hheld])]
  · obtain ⟨came, went, hmove⟩ := move_step h new hone
    rw [hmove.entered h, hmove.left h]
    exact hmove.follows h

/-- Whoever is still to arrive, has not come yet. -/
theorem get?_of_nodup {m : Machine ε} {names later : List String}
    (hnames : (m.status.keys ++ (names ++ later)).Nodup) :
    ∀ name ∈ names, m.status.get? name = none := by
  intro name hmem
  rw [← Table.has_eq_false, Bool.eq_false_iff, Ne, Table.has_eq_true, ← Table.mem_keys_iff]
  exact fun hkey => List.disjoint_of_nodup_append hnames hkey (List.mem_append_left _ hmem)

theorem follows_run {m : Machine ε} (h : m.Orderly) (events : List (Event ε))
    (hnames : (m.status.keys ++ arrivals events).Nodup) :
    m.Follows (arrivals events) (m.taken events) (m.returned events) (m.run events) := by
  induction events generalizing m with
  | nil => exact h.follows_self
  | cons event rest ih =>
      have hfirst := follows_step h (get?_of_nodup hnames)
      refine hfirst.trans (ih hfirst.orderly ?_)
      rw [hfirst.keys, List.append_assoc]
      exact hnames

theorem run_append (m : Machine ε) (past future : List (Event ε)) :
    m.run (past ++ future) = (m.run past).run future :=
  List.foldl_append

theorem taken_append (m : Machine ε) (past future : List (Event ε)) :
    m.taken (past ++ future) = m.taken past ++ (m.run past).taken future := by
  induction past generalizing m with
  | nil => rfl
  | cons event rest ih =>
      rw [List.cons_append, taken, taken, ih, List.append_assoc]
      rfl

/-! ## How a passage ends -/

theorem get?_leave {m : Machine ε} (h : m.Orderly) {name : String} {status : Status ε}
    (inside : m.status.get? name = some .held) :
    (m.leave name status).status.get? name = some status := by
  rw [leave, giveBack]
  split
  · exact Table.get?_put_self ..
  · rename_i next rest hline
    have hwaits : m.status.get? next = some .waiting :=
      h.mem_waiting.mp (by rw [show m.waiting = next :: rest from hline]; simp)
    have hne : next ≠ name := by
      rintro rfl
      rw [inside] at hwaits
      cases hwaits
    rw [enter, Table.get?_put_of_ne _ _ hne]
    exact Table.get?_put_self ..

theorem get?_expire {m : Machine ε} {name : String} (waits : m.status.get? name = some .waiting) :
    (m.expire name).status.get? name = some .timedOut := by
  rw [expire, waits]
  exact Table.get?_put_self ..

theorem get?_expire_of_ne {m : Machine ε} {name other : String} (hne : other ≠ name) :
    (m.expire other).status.get? name = m.status.get? name := by
  rw [expire]
  split
  · exact Table.get?_put_of_ne _ _ hne
  · rfl

theorem get?_timeout {m : Machine ε} (h : m.Orderly) {name : String}
    (waits : m.status.get? name = some .waiting) :
    (m.step .timeout).status.get? name = some .timedOut := by
  suffices ∀ names : List String, name ∈ names →
      (names.foldl expire m).status.get? name = some .timedOut from this _ (h.mem_waiting.mpr waits)
  intro names hmem
  induction names generalizing m with
  | nil => cases hmem
  | cons first rest ih =>
      have hfirst := ((move_expire m first).follows h).orderly
      by_cases heq : first = name
      · subst heq
        exact (follows_expire hfirst rest).ended (get?_expire waits) ⟨rfl, rfl⟩
      · exact ih hfirst (by rw [get?_expire_of_ne heq, waits])
          ((List.mem_cons.mp hmem).resolve_left (Ne.symm heq))

section Passage

variable {m : Machine ε} {past future : List (Event ε)} {event : Event ε} {name : String}
  {status : Status ε}

/-- What has become of somebody for good is still so at the end, and such a one does not come in
any more. -/
theorem Follows.over_run {joined came went : List String} {m' : Machine ε}
    (h : m.Follows joined came went m')
    (hnames : (m'.status.keys ++ arrivals future).Nodup)
    (hget : m'.status.get? name = some status) (hover : status.IsOver) :
    (m'.run future).status.get? name = some status ∧ name ∉ m'.taken future := by
  have hlater := follows_run h.orderly future hnames
  refine ⟨hlater.ended hget hover, fun hmem => ?_⟩
  rcases List.mem_append.mp (hlater.line.subset (List.mem_append_left _ hmem)) with hwait | harrive
  · rw [h.orderly.mem_waiting, hget] at hwait
    exact hover.ne_waiting (Option.some.inj hwait)
  · have hkey : name ∈ m'.status.keys := Table.mem_keys_iff.mpr ⟨_, hget⟩
    exact List.disjoint_of_nodup_append hnames hkey harrive

/-- What an event does to somebody for good is so at the end, and such a one is let in neither by
the event nor later. -/
theorem settled (h : m.Orderly)
    (hnames : (m.status.keys ++ arrivals (past ++ event :: future)).Nodup)
    (hget : (m.run past).Orderly → ((m.run past).step event).status.get? name = some status)
    (hover : status.IsOver) :
    (m.run (past ++ event :: future)).status.get? name = some status ∧
      name ∉ (m.run past).taken (event :: future) := by
  have hsplit : arrivals (past ++ event :: future) =
      arrivals past ++ (event.arriving ++ arrivals future) := by simp [arrivals]
  rw [hsplit, ← List.append_assoc] at hnames
  have hpast := follows_run h past hnames.of_append_left
  rw [← hpast.keys] at hnames
  have hevent := follows_step hpast.orderly (get?_of_nodup hnames)
  rw [← List.append_assoc, ← hevent.keys] at hnames
  have hnow := hget hpast.orderly
  obtain ⟨hfinal, hlater⟩ := hevent.over_run hnames hnow hover
  rw [run_append]
  refine ⟨hfinal, fun hmem => ?_⟩
  rcases List.mem_append.mp hmem with hentered | htaken
  · rw [mem_entered hpast.orderly.unique hevent.orderly.unique, hnow] at hentered
    exact hover.ne_held (Option.some.inj hentered.1)
  · exact hlater htaken

end Passage

end Machine

/-! ## The discipline -/

open Machine

/-- A pool of some size whose visitors have patience, after some events. -/
def after (size : Nat) (events : List (Event ServiceError)) : Machine ServiceError :=
  (init size true).run events

/-- Who came into the block of such a pool. -/
def cameIn (size : Nat) (events : List (Event ServiceError)) : List String :=
  (init size true : Machine ServiceError).taken events

/-- Who left the block of such a pool. -/
def wentOut (size : Nat) (events : List (Event ServiceError)) : List String :=
  (init size true : Machine ServiceError).returned events

/-- The error that somebody's passage ended with. -/
def Machine.errorOf? (m : Machine ServiceError) (name : String) : Option ServiceError :=
  (m.status.get? name).bind Status.error?

/-- What a pool of some size owes to those who come during some events. -/
structure Discipline (size : Nat) (events : List (Event ServiceError)) : Prop where
  /-- What counts as in use is who is inside, -/
  counted : (after size events).inUse = (after size events).holders.length
  within : (after size events).inUse ≤ size
  /-- and it is everything when somebody waits. -/
  full : (after size events).waiters ≠ [] → (after size events).inUse = size
  /-- Those who came in, in that order, and those who still wait after them keep the order of
  arrival: nobody is let in before one who waits and came earlier. -/
  fifo : (cameIn size events ++ (after size events).waiters).Sublist (arrivals events)
  /-- Each who comes in takes one of the free slots, and each who leaves gives one back, -/
  slots : (after size events).free + (cameIn size events).length =
    size + (wentOut size events).length
  /-- nobody takes two, -/
  once : ∀ name, (cameIn size events).count name ≤ 1
  /-- and whoever came in has given it back once, unless still inside. -/
  back : ∀ name, (wentOut size events).count name + (after size events).holders.count name =
    (cameIn size events).count name
  /-- Whoever is cancelled or runs out of time while waiting neither takes a slot nor gives one
  back. -/
  without : ∀ past event future name, events = past ++ event :: future →
    event = .cancel name ∨ event = .expire name ∨ event = .timeout →
    name ∈ (after size past).waiters → name ∉ cameIn size events ∧ name ∉ wentOut size events
  returns : ∀ past future name, events = past ++ .release name .done :: future →
    name ∈ (after size past).holders → (after size events).status.get? name = some .released
  /-- An error of the service leaves the block as it is, -/
  passes : ∀ past future name error, events = past ++ .release name (.failed error) :: future →
    name ∈ (after size past).holders → (after size events).errorOf? name = some error
  /-- any other failure as one of the store. -/
  breaks : ∀ past future name message,
    events = past ++ .release name (.broken message) :: future →
    name ∈ (after size past).holders →
    (after size events).errorOf? name = some (.store (.broken message))
  /-- A wait that takes too long fails as the store does, -/
  late : ∀ past event future name, events = past ++ event :: future →
    event = .expire name ∨ event = .timeout →
    name ∈ (after size past).waiters → (after size events).errorOf? name = some (.store .noSlot)
  /-- and a cancellation stays one. -/
  cancelled : ∀ past future name, events = past ++ .cancel name :: future →
    name ∈ (after size past).holders ∨ name ∈ (after size past).waiters →
    (after size events).status.get? name = some .cancelled

section Start

variable {size : Nat} {events past future : List (Event ServiceError)} {name : String}

theorem follows_after (size : Nat) (hnames : (arrivals events).Nodup) :
    (init size true : Machine ServiceError).Follows (arrivals events) (cameIn size events)
      (wentOut size events) (after size events) :=
  follows_run (orderly_init size) events hnames

theorem after_released (leaving : Leaving ServiceError) (hnames : (arrivals events).Nodup)
    (hsplit : events = past ++ .release name leaving :: future)
    (hinside : name ∈ (after size past).holders) :
    (after size events).status.get? name = some (statusOf leaving) := by
  subst hsplit
  refine (settled (orderly_init size) hnames (fun hpast => ?_) (statusOf_isOver leaving)).1
  have hheld := (mem_holders hpast.unique).mp hinside
  rw [step, hheld]
  exact get?_leave hpast hheld

theorem count_wentOut (size : Nat) (hnames : (arrivals events).Nodup) (name : String) :
    (wentOut size events).count name + (after size events).holders.count name =
      (cameIn size events).count name := by
  have hcount := (follows_after size hnames).passages.count_eq name
  rwa [List.count_append, List.count_append, show (init size true).holders = [] from rfl,
    List.count_nil, Nat.add_zero] at hcount

theorem cameIn_line (size : Nat) (hnames : (arrivals events).Nodup) :
    (cameIn size events ++ (after size events).waiters).Sublist (arrivals events) := by
  have hfollows := follows_after size hnames
  rw [← hfollows.orderly.line]
  exact hfollows.line

/-- What becomes of one who waits when an event ends the wait. -/
theorem after_waited {event : Event ServiceError} {status : Status ServiceError}
    (hnames : (arrivals events).Nodup) (hsplit : events = past ++ event :: future)
    (hstep : ∀ m : Machine ServiceError, m.Orderly → m.status.get? name = some .waiting →
      (m.step event).status.get? name = some status) (hover : status.IsOver)
    (hwaits : name ∈ (after size past).waiters) :
    (after size events).status.get? name = some status ∧ name ∉ cameIn size events ∧
      name ∉ wentOut size events := by
  have hback := count_wentOut size hnames name
  subst hsplit
  have hnow (hpast : (after size past).Orderly) :
      ((after size past).step event).status.get? name = some status :=
    hstep _ hpast (hpast.mem_waiting.mp (by rwa [hpast.line]))
  obtain ⟨hstatus, hlater⟩ := settled (orderly_init size) hnames hnow hover
  have hearlier : name ∉ cameIn size past := by
    have hpastNames : (arrivals past).Nodup := by
      rw [arrivals, List.flatMap_append] at hnames
      exact hnames.of_append_left
    have hline := (cameIn_line size hpastNames).nodup hpastNames
    exact fun hmem => List.disjoint_of_nodup_append hline hmem hwaits
  have hnever : name ∉ cameIn size (past ++ event :: future) := by
    rw [cameIn, taken_append, List.mem_append]
    exact fun hmem => hmem.elim hearlier hlater
  refine ⟨hstatus, hnever, List.count_eq_zero.mp ?_⟩
  rw [List.count_eq_zero.mpr hnever] at hback
  omega

end Start

/-- **A pool keeps its discipline**, whatever its size and in whatever order people come, leave, are
cancelled and run out of time. -/
theorem pool_discipline (size : Nat) (events : List (Event ServiceError))
    (hnames : (arrivals events).Nodup) : Discipline size events := by
  have hfollows := follows_after size hnames
  have hconserved := hfollows.orderly.conserved
  rw [hfollows.size, show (init size true : Machine ServiceError).size = size from rfl]
    at hconserved
  have hexpire (name : String) (m : Machine ServiceError) (_ : m.Orderly)
      (hwaits : m.status.get? name = some .waiting) :
      (m.step (.expire name)).status.get? name = some .timedOut := get?_expire hwaits
  have hcancel (name : String) (m : Machine ServiceError) (_ : m.Orderly)
      (hwaits : m.status.get? name = some .waiting) :
      (m.step (.cancel name)).status.get? name = some .cancelled := by
    rw [step, hwaits]
    exact Table.get?_put_self ..
  have htimeout (name : String) (m : Machine ServiceError) (hm : m.Orderly)
      (hwaits : m.status.get? name = some .waiting) :
      (m.step .timeout).status.get? name = some .timedOut := get?_timeout hm hwaits
  exact
    { counted := hfollows.orderly.counted
      within := by omega
      full := fun hwaits => by
        have hfree := hfollows.orderly.busy (by rwa [hfollows.orderly.line])
        omega
      fifo := cameIn_line size hnames
      slots := hfollows.slots (orderly_init size)
      once := fun name => List.nodup_iff_count_le_one.mp
        ((cameIn_line size hnames).nodup hnames).of_append_left name
      back := count_wentOut size hnames
      without := by
        rintro past event future name hsplit (rfl | rfl | rfl) hwaits
        · exact (after_waited hnames hsplit (hcancel name) ⟨rfl, rfl⟩ hwaits).2
        · exact (after_waited hnames hsplit (hexpire name) ⟨rfl, rfl⟩ hwaits).2
        · exact (after_waited hnames hsplit (htimeout name) ⟨rfl, rfl⟩ hwaits).2
      returns := fun past future name hsplit => after_released .done hnames hsplit
      passes := fun past future name error hsplit hinside => by
        rw [errorOf?, after_released _ hnames hsplit hinside]
        rfl
      breaks := fun past future name message hsplit hinside => by
        rw [errorOf?, after_released _ hnames hsplit hinside]
        rfl
      late := by
        rintro past event future name hsplit (rfl | rfl) hwaits
        · rw [errorOf?, (after_waited hnames hsplit (hexpire name) ⟨rfl, rfl⟩ hwaits).1]
          rfl
        · rw [errorOf?, (after_waited hnames hsplit (htimeout name) ⟨rfl, rfl⟩ hwaits).1]
          rfl
      cancelled := by
        rintro past future name hsplit (hinside | hwaits)
        · subst hsplit
          refine (settled (orderly_init size) hnames (fun hpast => ?_) ⟨rfl, rfl⟩).1
          have hheld := (mem_holders hpast.unique).mp hinside
          rw [step, hheld]
          exact get?_leave hpast hheld
        · exact (after_waited hnames hsplit (hcancel name) ⟨rfl, rfl⟩ hwaits).1 }

/-- One comes in and two wait; the first of the two comes in when the one leaves, the other runs out
of time. -/
theorem pool_discipline_three :
    Discipline 1 [.acquire "ann", .acquire "ben", .acquire "cal", .release "ann" (.broken "reset"),
      .timeout, .cancel "ben"] ∧
    cameIn 1 [.acquire "ann", .acquire "ben", .acquire "cal", .release "ann" (.broken "reset"),
      .timeout, .cancel "ben"] = ["ann", "ben"] :=
  ⟨pool_discipline 1 _ (by simp [arrivals, Event.arriving]), by decide⟩

/-! ## Operations in a slot -/

/-- How an operation leaves the slot it was done in. -/
def Leaving.ofResult {α : Type} : Except Failure α → Leaving ServiceError
  | .ok _ => .done
  | .error (.service error) => .failed error
  | .error (.crash crash) => .broken (Op.crashText crash)

/-- The error of the service that an operation ended with. -/
def serviceError? {α : Type} : Except Failure α → Option ServiceError
  | .error (.service error) => some error
  | .ok _ | .error (.crash _) => none

/-- The pool that some slots belong to, when nobody waits. -/
def Machine.ofSlots (slots : Slots) : Machine ServiceError :=
  ⟨slots.size, slots.patient, slots.size - slots.inUse, slots.inUse, [], []⟩

/-- An operation in a slot is a visit to the pool: it fails as the visit does, where nobody else
comes or leaves before the time of the visitor runs out. -/
theorem serviceError?_withSlot {α : Type} (op : Op α) (w : World) (name : String) :
    serviceError? (op.withSlot.exec w).1 =
      ((Machine.ofSlots w.slots).run [.acquire name,
        .release name (.ofResult
          (op.exec { w with slots := { w.slots with inUse := w.slots.inUse + 1 } }).1),
        .expire name]).errorOf? name := by
  simp only [run, List.foldl_cons, List.foldl_nil]
  by_cases hfree : w.slots.isFree = true
  · obtain ⟨hpatient, hroom⟩ : w.slots.patient = true ∧ w.slots.inUse < w.slots.size := by
      simpa [Slots.isFree] using hfree
    have hin : (Machine.ofSlots w.slots).step (.acquire name) =
        { Machine.ofSlots w.slots with free := w.slots.size - w.slots.inUse - 1 }.enter name := by
      have : 0 < w.slots.size - w.slots.inUse := by omega
      simp [step, acquire, Machine.ofSlots, hpatient, this]
    rw [Op.exec, show (op.withSlot.run.run w) = op.withSlot w from rfl, Op.withSlot, if_pos hfree]
    simp only [hin]
    rcases (op.exec { w with slots := { w.slots with inUse := w.slots.inUse + 1 } }).1 with
      (error | crash) | value <;>
      simp [step, enter, leave, giveBack, expire, Machine.ofSlots, Table.put, Table.get?,
        Leaving.ofResult, statusOf, errorOf?, Status.error?, serviceError?, Except.mapError,
        Op.insideSlot]
  · have hfail : (op.withSlot.exec w).1 = .error (.service (.store .noSlot)) := by
      rw [Op.exec, show (op.withSlot.run.run w) = op.withSlot w from rfl, Op.withSlot, if_neg hfree]
    have hlate : (Machine.ofSlots w.slots).step (.acquire name) =
          { Machine.ofSlots w.slots with status := [(name, .timedOut)] } ∨
        (Machine.ofSlots w.slots).step (.acquire name) =
          { Machine.ofSlots w.slots with waiting := [name], status := [(name, .waiting)] } := by
      cases hpatient : w.slots.patient with
      | false => exact .inl (by simp [step, acquire, Machine.ofSlots, hpatient, Table.put])
      | true =>
          have : ¬ 0 < w.slots.size - w.slots.inUse := by
            simp [Slots.isFree, hpatient] at hfree
            omega
          exact .inr (by simp [step, acquire, Machine.ofSlots, hpatient, this, Table.put])
    rw [hfail]
    rcases hlate with hlate | hlate <;> rw [hlate] <;>
      simp [step, expire, giveUp, Table.put, Table.get?, errorOf?, Status.error?, serviceError?]

end Accounts.Pool
