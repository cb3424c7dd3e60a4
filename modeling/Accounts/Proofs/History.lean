import Mathlib.Data.List.Induction
import Accounts.Proofs.Api.Calls

/-!
# What was served

The history of a run is the list of the calls that were made in it, by requests or as such, each
with its result. What holds of the empty store before anything was served, and is kept by every call
that is served, holds of the store and the history of every run (`run_history`): a statement about
runs is proved by looking at one commit at a time.
-/

namespace Accounts

/-- A call that was made: whether a slot was to be had for it, and what came of it. -/
structure Served where
  call : Call
  free : Bool
  result : Except Failure call.Answer

/-- A call as it is served in a world. -/
def Call.servedIn (call : Call) (w : World) : Served :=
  ⟨call, w.slots.isFree, (call.op.exec w).1⟩

/-- What a call that was served has committed. -/
def Served.Has (served : Served) (w : World) (commit : Commit) : Prop :=
  match served.result with
  | .ok answer => served.call.Done w answer commit
  | .error _ => served.call.Failed w commit

namespace World

/-- The call that an event comes to. -/
def callOf? (w : World) : Event → Option Call
  | .request setup request => Api.callOf? setup request w
  | .call call => some call
  | .meanwhile .. => none

/-- What was served in a run. -/
def history (w : World) : List Event → List Served
  | [] => []
  | event :: rest => ((w.callOf? event).map (·.servedIn w)).toList ++ (w.step event).history rest

theorem history_concat (w : World) (events : List Event) (event : Event) :
    w.history (events ++ [event]) = w.history events
      ++ (((w.run events).callOf? event).map (·.servedIn (w.run events))).toList := by
  induction events generalizing w with
  | nil => simp only [List.nil_append, history, List.append_nil, run, List.foldl_nil]
  | cons first rest ih =>
      have hrun : w.run (first :: rest) = (w.step first).run rest := rfl
      simp only [List.cons_append, history, ih, hrun, List.append_assoc]

variable {w : World}

/-- A call makes the commit that its result tells of. -/
theorem Settled.exec_store (h : w.Settled) (call : Call) :
    ∃ commit, (call.servedIn w).Has w commit ∧ commit.Admissible w.store
      ∧ (call.op.exec w).2.store = commit.apply w.store := by
  unfold Call.servedIn Served.Has
  rcases (call.op_does h.at_store h.sound).cases with
    ⟨failure, w', hexec, commit, hcommit, hafter⟩ | ⟨answer, w', hexec, commit, hcommit, hafter⟩
  · rw [hexec]
    exact ⟨commit, hcommit, hafter.admissible, hafter.at_apply.store⟩
  · rw [hexec]
    exact ⟨commit, hcommit, hafter.admissible, hafter.at_apply.store⟩

/-- The store changes by the call that an event comes to, and not without one. -/
theorem step_store (w : World) (event : Event) :
    (w.step event).store = match w.callOf? event with
      | some call => (call.op.exec w).2.store
      | none => w.store := by
  cases event with
  | request setup request =>
      exact Api.exchange_store setup request w
  | call call => rfl
  | meanwhile now slots supply requests => rfl

/-- An event leaves users where they are, with their addresses. -/
theorem Settled.user_step (h : w.Settled) {id : Int} {user : User}
    (huser : w.store.users.get? id = some user) (event : Event) :
    ∃ later, (w.step event).store.users.get? id = some later ∧ later.email = user.email := by
  rw [step_store]
  cases w.callOf? event with
  | none => exact ⟨user, huser, rfl⟩
  | some call =>
      obtain ⟨commit, -, hadmissible, hstore⟩ := h.exec_store call
      obtain ⟨later, hlater, hcontinues⟩ := Commit.continues_apply h.sound hadmissible huser
      dsimp only
      rw [hstore]
      exact ⟨later, hlater, hcontinues.email⟩

theorem Settled.user_run (h : w.Settled) {id : Int} {user : User}
    (huser : w.store.users.get? id = some user) (events : List Event) :
    ∃ later, (w.run events).store.users.get? id = some later ∧ later.email = user.email := by
  induction events generalizing w user with
  | nil => exact ⟨user, huser, rfl⟩
  | cons event rest ih =>
      obtain ⟨next, hnext, hemail⟩ := h.user_step huser event
      obtain ⟨later, hlater, hlast⟩ := ih (h.step event) hnext
      exact ⟨later, hlater, hlast.trans hemail⟩

/-- What holds at the start and is kept by every call that is served holds along all runs. -/
theorem run_served {P : Store → List Served → Prop} {start : World} (hstart : start.IsInitial)
    (hempty : P .empty [])
    (hserve : ∀ (w : World) (history : List Served) (call : Call), w.Settled →
      P w.store history → P (call.op.exec w).2.store (history ++ [call.servedIn w]))
    (events : List Event) : P (start.run events).store (start.history events) := by
  induction events using List.reverseRecOn with
  | nil =>
      have hstore : (start.run []).store = .empty := hstart.store
      rw [hstore]
      exact hempty
  | append_singleton events event ih =>
      rw [run_concat, step_store, history_concat]
      cases (start.run events).callOf? event with
      | none =>
          rw [Option.map_none, Option.toList_none, List.append_nil]
          exact ih
      | some call => exact hserve _ _ call (hstart.settled.run events) ih

/-- The same, by the commits that the results tell of. -/
theorem run_history {P : Store → List Served → Prop} {start : World} (hstart : start.IsInitial)
    (hempty : P .empty [])
    (hserve : ∀ (w : World) (history : List Served) (call : Call) (commit : Commit), w.Settled →
      P w.store history → (call.servedIn w).Has w commit → commit.Admissible w.store →
      P (commit.apply w.store) (history ++ [call.servedIn w]))
    (events : List Event) : P (start.run events).store (start.history events) := by
  refine run_served hstart hempty (fun w history call hsettled hold => ?_) events
  obtain ⟨commit, hhas, hadmissible, hstore⟩ := hsettled.exec_store call
  rw [hstore]
  exact hserve w history call commit hsettled hold hhas hadmissible

end World

end Accounts
