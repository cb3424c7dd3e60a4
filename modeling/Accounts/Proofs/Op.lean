import Accounts.World

/-!
# How operations end

`op.Ends w ok failed` says how `op` ends when it is started in the world `w`: with an answer and a
world as `ok` says, or with a failure and a world as `failed` says. There is one rule for each way
of building operations and one for each primitive that is not a plain failure, so that what a
service does is read off its text from top to bottom; a service that calls another one uses what is
known of its end and does not look inside.
-/

namespace Accounts.Op

variable {α β : Type} {w : World}
variable {ok ok' : α → World → Prop} {failed failed' : Failure → World → Prop}

/-- How `op` ends when it is started in `w`. -/
def Ends (op : Op α) (w : World) (ok : α → World → Prop) (failed : Failure → World → Prop) : Prop :=
  match op.exec w with
  | (.ok value, w') => ok value w'
  | (.error failure, w') => failed failure w'

/-! ## Composition -/

theorem ends_pure {value : α} : (pure value : Op α).Ends w ok failed ↔ ok value w := Iff.rfl

theorem ends_throw {failure : Failure} :
    (throw failure : Op α).Ends w ok failed ↔ failed failure w := Iff.rfl

theorem exec_bind (op : Op α) (next : α → Op β) (w : World) :
    (op >>= next).exec w = match op.exec w with
      | (.ok value, w') => (next value).exec w'
      | (.error failure, w') => (.error failure, w') := by
  change (StateT.bind (ExceptT.run op) (ExceptT.bindCont next)) w = _
  simp only [StateT.bind, exec, ExceptT.run, StateT.run, bind]
  rcases h : op w with ⟨⟨failure⟩ | value, w'⟩ <;> rfl

theorem ends_bind {op : Op α} {next : α → Op β} {ok : β → World → Prop} :
    (op >>= next).Ends w ok failed ↔
      op.Ends w (fun value w' => (next value).Ends w' ok failed) failed := by
  unfold Ends
  rw [exec_bind]
  rcases op.exec w with ⟨⟨failure⟩ | value, w'⟩ <;> rfl

/-- What is known of the end of an operation may be weakened. -/
theorem Ends.mono {op : Op α} (h : op.Ends w ok failed)
    (hok : ∀ value w', ok value w' → ok' value w')
    (hfailed : ∀ failure w', failed failure w' → failed' failure w') : op.Ends w ok' failed' := by
  revert h
  unfold Ends
  rcases op.exec w with ⟨failure | value, w'⟩
  · exact hfailed failure w'
  · exact hok value w'

/-- The end that is spoken of is the one that a run has. -/
theorem Ends.exec {op : Op α} (h : op.Ends w ok failed) :
    op.Ends w (fun value w' => op.exec w = (.ok value, w') ∧ ok value w')
      (fun failure w' => op.exec w = (.error failure, w') ∧ failed failure w') := by
  revert h
  unfold Ends
  rcases op.exec w with ⟨failure | value, w'⟩ <;> exact fun h => ⟨rfl, h⟩

/-- A run ends in one of two ways. -/
theorem Ends.cases {op : Op α} (h : op.Ends w ok failed) :
    (∃ failure w', op.exec w = (.error failure, w') ∧ failed failure w')
      ∨ ∃ value w', op.exec w = (.ok value, w') ∧ ok value w' := by
  revert h
  unfold Ends
  rcases op.exec w with ⟨failure | value, w'⟩
  · exact fun h => Or.inl ⟨failure, w', rfl, h⟩
  · exact fun h => Or.inr ⟨value, w', rfl, h⟩

/-- An operation goes on from whatever its first part ends in. -/
theorem Ends.next {op : Op α} {next : α → Op β} {ok' : β → World → Prop}
    (h : op.Ends w ok failed) (hnext : ∀ value w', ok value w' → (next value).Ends w' ok' failed')
    (hfailed : ∀ failure w', failed failure w' → failed' failure w') :
    (op >>= next).Ends w ok' failed' :=
  ends_bind.mpr (h.mono hnext hfailed)

/-! ## Primitives -/

theorem ends_ofResult {result : Except Failure α} :
    (ofResult result).Ends w ok failed ↔
      match result with
      | .ok value => ok value w
      | .error failure => failed failure w := by
  cases result <;> rfl

theorem ends_get {ok : World → World → Prop} : (get : Op World).Ends w ok failed ↔ ok w w := Iff.rfl

theorem ends_modify {f : World → World} {ok : Unit → World → Prop} :
    (modify f : Op Unit).Ends w ok failed ↔ ok () (f w) := Iff.rfl

theorem ends_now {ok : Timestamp → World → Prop} :
    now.Ends w ok failed ↔ ok (.utc w.now) w := Iff.rfl

theorem ends_read {f : Store → α} : (read f).Ends w ok failed ↔ ok (f w.store) w := Iff.rfl

theorem exec_write (f : Store → Except ServiceError (α × Store)) (w : World) :
    (write f).exec w = match f w.store with
      | .ok (value, store) => (.ok value, { w with store })
      | .error error => (.error (.service error), w) := by
  have hget : (get : Op World).exec w = (.ok w, w) := rfl
  unfold write
  rw [exec_bind, hget]
  dsimp only
  rcases f w.store with error | ⟨value, store⟩ <;> rfl

theorem ends_write {f : Store → Except ServiceError (α × Store)} :
    (write f).Ends w ok failed ↔
      match f w.store with
      | .ok (value, store) => ok value { w with store }
      | .error error => failed (.service error) w := by
  unfold Ends
  rw [exec_write]
  rcases f w.store with error | ⟨value, store⟩ <;> rfl

theorem ends_put {f : Store → α × Store} :
    (put f).Ends w ok failed ↔ ok (f w.store).1 { w with store := (f w.store).2 } := by
  unfold put
  rw [ends_write]

theorem ends_withSlot {op : Op α} :
    (withSlot op).Ends w ok failed ↔
      if w.slots.isFree then
        op.Ends { w with slots := { w.slots with inUse := w.slots.inUse + 1 } }
          (fun value w' =>
            ok value { w' with slots := { w'.slots with inUse := w'.slots.inUse - 1 } })
          (fun failure w' => failed (insideSlot failure)
            { w' with slots := { w'.slots with inUse := w'.slots.inUse - 1 } })
      else failed (.service (.store .noSlot)) w := by
  have hexec : (withSlot op).exec w = withSlot op w := rfl
  by_cases hfree : w.slots.isFree
  · rw [if_pos hfree]
    unfold Ends
    rw [hexec, withSlot, if_pos hfree]
    rcases op.exec _ with ⟨failure | value, w'⟩ <;> rfl
  · rw [if_neg hfree]
    unfold Ends
    rw [hexec, withSlot, if_neg hfree]

/-- A read gives its slot back. -/
theorem ends_readBack (f : Store → α) :
    (withSlot (read f)).Ends w (fun value w' => value = f w.store ∧ w' = w)
      (fun _ w' => w' = w) := by
  rw [ends_withSlot]
  split
  · exact ⟨rfl, rfl⟩
  · rfl

end Accounts.Op
