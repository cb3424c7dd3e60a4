import Mathlib.Data.List.Perm.Lattice
import Mathlib.Data.List.Nodup
import Accounts.Pool.Machine
import Accounts.Proofs.Table

/-!
# Moves of the pool

A run of the pool is told by what became of everybody: who is inside the block, who waits, and, from
one state to the next, who came in and who went out. The counters of the pool are held against that.
What one event can do is said once, by `Machine.Move`, and every move keeps the books of the pool
(`Machine.Orderly`) and the line (`Machine.Move.line`). Only the end of the waiting time for all is
not one move but many.
-/

namespace Accounts.Pool

variable {ε : Type}

def Status.isHeld : Status ε → Bool
  | .held => true
  | _ => false

def Status.isWaiting : Status ε → Bool
  | .waiting => true
  | _ => false

/-- Neither inside nor waiting: nothing happens to such a one any more. -/
def Status.IsOver (status : Status ε) : Prop := status.isHeld = false ∧ status.isWaiting = false

theorem Status.isHeld_iff {status : Status ε} : status.isHeld = true ↔ status = .held := by
  cases status <;> simp [isHeld]

theorem Status.isWaiting_iff {status : Status ε} : status.isWaiting = true ↔ status = .waiting := by
  cases status <;> simp [isWaiting]

theorem Status.IsOver.ne_held {status : Status ε} (h : status.IsOver) : status ≠ .held := by
  rintro rfl
  cases h.1

theorem Status.IsOver.ne_waiting {status : Status ε} (h : status.IsOver) : status ≠ .waiting := by
  rintro rfl
  cases h.2

theorem Machine.statusOf_isOver (leaving : Leaving ε) : (Machine.statusOf leaving).IsOver := by
  cases leaving <;> exact ⟨rfl, rfl⟩

/-- Who arrives with an event. -/
def Event.arriving : Event ε → List String
  | .acquire name => [name]
  | .release .. | .cancel _ | .expire _ | .timeout => []

/-- Who arrives during some events, in that order. -/
def arrivals (events : List (Event ε)) : List String := events.flatMap Event.arriving

namespace Machine

/-! ## What is seen of a run -/

/-- Those who are inside the block. -/
def holders (m : Machine ε) : List String := m.status.keysWhere Status.isHeld

/-- Those who wait, in the order in which they came. -/
def waiters (m : Machine ε) : List String := m.status.keysWhere Status.isWaiting

def run (m : Machine ε) (events : List (Event ε)) : Machine ε := events.foldl step m

/-- Who came into the block between two states. -/
def entered (m m' : Machine ε) : List String := m'.holders.filter (· ∉ m.holders)

/-- Who left the block between two states. -/
def left (m m' : Machine ε) : List String := m'.entered m

/-- Who came into the block during some events, in that order. -/
def taken (m : Machine ε) : List (Event ε) → List String
  | [] => []
  | event :: rest => m.entered (m.step event) ++ (m.step event).taken rest

/-- Who left the block during some events, in that order. -/
def returned (m : Machine ε) : List (Event ε) → List String
  | [] => []
  | event :: rest => m.left (m.step event) ++ (m.step event).returned rest

/-- The books of a pool are in order. -/
structure Orderly (m : Machine ε) : Prop where
  patient : m.patient = true
  unique : m.status.Unique
  /-- The line is made of those who wait, in the order in which they came. -/
  line : m.waiting = m.waiters
  /-- What counts as in use is who is inside. -/
  counted : m.inUse = m.holders.length
  conserved : m.free + m.inUse = m.size
  /-- Nobody waits while a slot is free. -/
  busy : m.waiting ≠ [] → m.free = 0

theorem orderly_init (size : Nat) : (init size true : Machine ε).Orderly where
  patient := rfl
  unique := Table.unique_nil
  line := rfl
  counted := rfl
  conserved := rfl
  busy := fun h => absurd rfl h

theorem mem_holders {m : Machine ε} (h : m.status.Unique) {name : String} :
    name ∈ m.holders ↔ m.status.get? name = some .held := by
  simp [holders, h.mem_keysWhere, Status.isHeld_iff]

theorem Orderly.mem_waiting {m : Machine ε} (h : m.Orderly) {name : String} :
    name ∈ m.waiting ↔ m.status.get? name = some .waiting := by
  simp [h.line, waiters, h.unique.mem_keysWhere, Status.isWaiting_iff]

section Passages

variable {m m' : Machine ε} (h : m.status.Unique) (h' : m'.status.Unique)
include h h'

theorem mem_entered {name : String} :
    name ∈ m.entered m' ↔
      m'.status.get? name = some .held ∧ m.status.get? name ≠ some .held := by
  simp [entered, mem_holders h, mem_holders h']

/-- Who came in, when that is one at most. -/
theorem entered_eq {names : List String} (hone : names.length ≤ 1)
    (hmem : ∀ name, m'.status.get? name = some .held ∧ m.status.get? name ≠ some .held ↔
      name ∈ names) : m.entered m' = names := by
  have hnodup : (m.entered m').Nodup := (h'.nodup_keysWhere _).filter _
  have hperm : names.Nodup → (m.entered m').Perm names := fun hnames =>
    (List.perm_ext_iff_of_nodup hnodup hnames).mpr fun name => (mem_entered h h').trans (hmem name)
  match names, hone with
  | [], _ => exact (hperm List.nodup_nil).eq_nil
  | [name], _ => exact List.perm_singleton.mp (hperm (List.nodup_singleton name))

/-- Whoever was inside and whoever came are those who left and those who are inside now. -/
theorem left_append_holders : (m.left m' ++ m'.holders).Perm (m.entered m' ++ m.holders) := by
  have hnodup : m.holders.Nodup := h.nodup_keysWhere _
  have hnodup' : m'.holders.Nodup := h'.nodup_keysWhere _
  refine (List.perm_ext_iff_of_nodup ?_ ?_).mpr fun name => ?_
  · exact (hnodup.filter _).append hnodup' fun name hl hh =>
      of_decide_eq_true (List.mem_filter.mp hl).2 hh
  · exact (hnodup'.filter _).append hnodup fun name hl hh =>
      of_decide_eq_true (List.mem_filter.mp hl).2 hh
  · simp only [left, entered, List.mem_append, List.mem_filter, decide_eq_true_eq]
    tauto

end Passages

/-! ## What one event can do -/

/-- All that can happen at once to a pool: who arrives by it, who comes into the block and who
leaves it. -/
inductive Move (m : Machine ε) : List String → List String → List String → Machine ε → Prop where
  | idle : Move m [] [] [] m
  | enters {name : String} (new : m.status.get? name = none) (room : 0 < m.free)
      (nobody : m.waiting = []) : Move m [name] [name] [] ({ m with free := m.free - 1 }.enter name)
  | queues {name : String} (new : m.status.get? name = none) (full : m.free = 0) :
      Move m [name] [] [] { m with
        waiting := m.waiting ++ [name]
        status := m.status.put name .waiting }
  | leaves {name : String} {status : Status ε} (inside : m.status.get? name = some .held)
      (ended : status.IsOver) (nobody : m.waiting = []) :
      Move m [] [] [name] { m with
        free := m.free + 1
        inUse := m.inUse - 1
        status := m.status.put name status }
  | handsOver {name next : String} {rest : List String} {status : Status ε}
      (inside : m.status.get? name = some .held) (ended : status.IsOver)
      (first : m.waiting = next :: rest) :
      Move m [] [next] [name] { m with
        inUse := m.inUse - 1 + 1
        waiting := rest
        status := (m.status.put name status).put next .held }
  | givesUp {name : String} {status : Status ε} (waits : m.status.get? name = some .waiting)
      (ended : status.IsOver) : Move m [] [] [] (m.giveUp name status)

theorem move_acquire {m : Machine ε} (h : m.Orderly) {name : String}
    (new : m.status.get? name = none) : ∃ came went, m.Move [name] came went (m.acquire name) := by
  rw [acquire, if_neg (by simp [h.patient])]
  by_cases hroom : 0 < m.free ∧ m.waiting = []
  · rw [if_pos (by simp [hroom])]
    exact ⟨_, _, .enters new hroom.1 hroom.2⟩
  · rw [if_neg (by simpa using hroom)]
    refine ⟨_, _, .queues new ?_⟩
    by_cases hline : m.waiting = []
    · exact Nat.eq_zero_of_not_pos fun hfree => hroom ⟨hfree, hline⟩
    · exact h.busy hline

theorem move_leave {m : Machine ε} {name : String} {status : Status ε}
    (inside : m.status.get? name = some .held) (ended : status.IsOver) :
    ∃ came, m.Move [] came [name] (m.leave name status) := by
  cases hline : m.waiting with
  | nil => exact ⟨_, by simpa [leave, giveBack, hline] using Move.leaves inside ended hline⟩
  | cons next rest =>
      exact ⟨_, by simpa [leave, giveBack, enter, hline] using Move.handsOver inside ended hline⟩

theorem move_expire (m : Machine ε) (name : String) : m.Move [] [] [] (m.expire name) := by
  unfold expire
  split
  · exact .givesUp ‹_› ⟨rfl, rfl⟩
  · exact .idle

/-- Every event but the end of the waiting time for all is one move. -/
theorem move_step {m : Machine ε} (h : m.Orderly) {event : Event ε}
    (new : ∀ name ∈ event.arriving, m.status.get? name = none) (hone : event ≠ .timeout) :
    ∃ came went, m.Move event.arriving came went (m.step event) := by
  cases event with
  | acquire name => exact move_acquire h (new name (List.mem_singleton_self name))
  | release name leaving =>
      simp only [step]
      split
      · obtain ⟨came, hmove⟩ := move_leave ‹_› (statusOf_isOver leaving)
        exact ⟨came, _, hmove⟩
      · exact ⟨_, _, .idle⟩
  | cancel name =>
      simp only [step]
      split
      · obtain ⟨came, hmove⟩ := move_leave ‹_› (show Status.cancelled.IsOver from ⟨rfl, rfl⟩)
        exact ⟨came, _, hmove⟩
      · exact ⟨_, _, .givesUp ‹_› ⟨rfl, rfl⟩⟩
      · exact ⟨_, _, .idle⟩
  | expire name => exact ⟨_, _, move_expire m name⟩
  | timeout => exact absurd rfl hone

/-! ## What every move keeps -/

section Moves

variable {m m' : Machine ε} {joined came went : List String}

theorem Move.unique (h : m.Orderly) (hmove : m.Move joined came went m') : m'.status.Unique := by
  cases hmove with
  | idle => exact h.unique
  | handsOver => exact (h.unique.put _ _).put _ _
  | enters | queues | leaves | givesUp => exact h.unique.put _ _

theorem Move.keys (h : m.Orderly) (hmove : m.Move joined came went m') :
    m'.status.keys = m.status.keys ++ joined := by
  have hthere {name : String} {status : Status ε} (hget : m.status.get? name = some status) :
      name ∈ m.status.keys := Table.mem_keys_iff.mpr ⟨_, hget⟩
  have hnew {name : String} (hget : m.status.get? name = none) : name ∉ m.status.keys := by
    simp [Table.mem_keys_iff, hget]
  cases hmove with
  | idle => simp
  | enters new | queues new => simp [enter, Table.keys_put, hnew new]
  | leaves there | givesUp there => simp [giveUp, Table.keys_put, hthere there]
  | @handsOver name next rest status inside ended first =>
      have hnext : next ∈ m.status.keys := hthere (h.mem_waiting.mp (by simp [first]))
      simp [Table.keys_put, hthere inside, hnext]

/-- Slots go from the free ones to those who come in, and back from those who leave. -/
theorem Move.counters (hmove : m.Move joined came went m') :
    m'.size = m.size ∧ m'.patient = m.patient ∧ m'.free + came.length = m.free + went.length ∧
    m'.inUse + went.length = m.inUse + came.length := by
  cases hmove with
  | enters new room nobody => simp [enter]; omega
  | _ => simp [giveUp]

/-- Who comes in was first in line, or finds nobody in line. -/
theorem Move.line (hmove : m.Move joined came went m') :
    (came ++ m'.waiting).Sublist (m.waiting ++ joined) := by
  cases hmove with
  | idle | leaves | queues => simp
  | enters new room nobody => simp [enter, nobody]
  | handsOver inside ended first => simp [first]
  | givesUp waits ended => simpa [giveUp] using List.erase_sublist

/-- Who is inside after a move is who came in and who was inside and did not leave. -/
theorem Move.inside (h : m.Orderly) (hmove : m.Move joined came went m') (name : String) :
    (m'.status.get? name = some .held ↔
      name ∈ came ∨ m.status.get? name = some .held ∧ name ∉ went) ∧
    (name ∈ came → m.status.get? name ≠ some .held) ∧
    (name ∈ went → m.status.get? name = some .held ∧ name ∉ came) := by
  cases hmove with
  | idle => simp
  | @enters other new room nobody =>
      by_cases hname : other = name
      · simp [enter, Table.get?_put, ← hname, new]
      · simp [enter, Table.get?_put, hname, Ne.symm hname]
  | @queues other new full =>
      by_cases hname : other = name
      · simp [Table.get?_put, ← hname, new]
      · simp [Table.get?_put, hname]
  | @leaves other status inside ended nobody =>
      by_cases hname : other = name
      · simp [Table.get?_put, ← hname, inside, ended.ne_held]
      · simp [Table.get?_put, hname, Ne.symm hname]
  | @handsOver other next rest status inside ended first =>
      have hwaits : m.status.get? next = some .waiting := h.mem_waiting.mp (by simp [first])
      have hne : next ≠ other := by
        rintro rfl
        simp [inside] at hwaits
      by_cases hnext : next = name
      · subst hnext
        simp [hne, Table.get?_put, hwaits]
      · by_cases hname : other = name
        · simp [Table.get?_put, ← hname, inside, ended.ne_held, hne, Ne.symm hne]
        · simp [Table.get?_put, hname, hnext, Ne.symm hname, Ne.symm hnext]
  | @givesUp other status waits ended =>
      by_cases hname : other = name
      · simp [giveUp, Table.get?_put, ← hname, waits, ended.ne_held]
      · simp [giveUp, Table.get?_put, hname]

theorem Move.length_le (hmove : m.Move joined came went m') :
    came.length ≤ 1 ∧ went.length ≤ 1 := by
  cases hmove <;> simp

theorem Move.entered (h : m.Orderly) (hmove : m.Move joined came went m') :
    m.entered m' = came :=
  entered_eq h.unique (hmove.unique h) hmove.length_le.1 fun name => by
    have := hmove.inside h name
    tauto

theorem Move.left (h : m.Orderly) (hmove : m.Move joined came went m') : m.left m' = went :=
  entered_eq (hmove.unique h) h.unique hmove.length_le.2 fun name => by
    have := hmove.inside h name
    tauto

theorem Move.waiting_eq (h : m.Orderly) (hmove : m.Move joined came went m') :
    m'.waiting = m'.waiters := by
  have hline := h.line
  have hput {name : String} {status : Status ε} (hstatus : status.isWaiting = false) :
      (m.status.put name status).keysWhere Status.isWaiting = m.waiting.erase name := by
    rw [Table.keysWhere_put h.unique name hstatus, hline, waiters]
  cases hmove with
  | idle => exact hline
  | enters new room nobody =>
      simp [enter, waiters, hput (show Status.held.isWaiting = false from rfl), nobody]
  | queues new full =>
      rw [waiters, Table.keysWhere_put_new new, hline]
      rfl
  | leaves inside ended nobody => simp [waiters, hput ended.2, nobody]
  | @handsOver name next rest status inside ended first =>
      have hout : name ∉ m.waiting := by simp [h.mem_waiting, inside]
      rw [waiters, Table.keysWhere_put (h.unique.put _ _) next rfl, hput ended.2,
        List.erase_of_not_mem hout, first, List.erase_cons_head]
  | givesUp waits ended => rw [waiters, giveUp, hput ended.2]

theorem Move.busy (h : m.Orderly) (hmove : m.Move joined came went m') :
    m'.waiting ≠ [] → m'.free = 0 := by
  cases hmove with
  | idle => exact h.busy
  | enters new room nobody | leaves inside ended nobody => exact fun hline => absurd nobody hline
  | queues new full => exact fun _ => full
  | handsOver inside ended first => exact fun _ => h.busy (by simp [first])
  | givesUp waits ended =>
      exact fun hline => h.busy fun hnil => hline (by simp [giveUp, hnil])

theorem Move.orderly (h : m.Orderly) (hmove : m.Move joined came went m') : m'.Orderly := by
  obtain ⟨hsize, hpatient, hfree, hinUse⟩ := hmove.counters
  have hperm := (left_append_holders h.unique (hmove.unique h)).length_eq
  rw [hmove.entered h, hmove.left h, List.length_append, List.length_append] at hperm
  have hcounted := h.counted
  have hconserved := h.conserved
  exact
    { patient := hpatient.trans h.patient
      unique := hmove.unique h
      line := hmove.waiting_eq h
      counted := by omega
      conserved := by omega
      busy := hmove.busy h }

/-- What has become of somebody for good is not changed by a move. -/
theorem Move.ended (h : m.Orderly) (hmove : m.Move joined came went m') {name : String}
    {status : Status ε} (hget : m.status.get? name = some status) (hover : status.IsOver) :
    m'.status.get? name = some status := by
  have hput {other : String} {new old : Status ε} (hother : m.status.get? other = some old)
      (hold : ¬ old.IsOver) : (m.status.put other new).get? name = some status := by
    have hne : other ≠ name := by
      rintro rfl
      exact hold (Option.some.inj (hother.symm.trans hget) ▸ hover)
    rw [Table.get?_put_of_ne _ _ hne, hget]
  have hnew {other : String} {new : Status ε} (hother : m.status.get? other = none) :
      (m.status.put other new).get? name = some status := by
    have hne : other ≠ name := by
      rintro rfl
      rw [hother] at hget
      cases hget
    rw [Table.get?_put_of_ne _ _ hne, hget]
  have hheld : ¬ (Status.held : Status ε).IsOver := fun h => h.ne_held rfl
  have hwaiting : ¬ (Status.waiting : Status ε).IsOver := fun h => h.ne_waiting rfl
  cases hmove with
  | idle => exact hget
  | enters new | queues new => exact hnew new
  | leaves inside => exact hput inside hheld
  | @handsOver other next rest left inside leftOver first =>
      have hwaits : m.status.get? next = some .waiting := h.mem_waiting.mp (by simp [first])
      have hne : next ≠ name := by
        rintro rfl
        exact hwaiting (Option.some.inj (hwaits.symm.trans hget) ▸ hover)
      rw [Table.get?_put_of_ne _ _ hne, hput inside hheld]
  | givesUp waits => exact hput waits hwaiting

end Moves

end Machine

end Accounts.Pool
