import Accounts.Proofs.Store.Commit
import Accounts.Proofs.World

/-!
# Operations that commit

An operation writes in two steps: the store gets ahead of the cache by one commit, and then the
user whose roles were changed is forgotten, so that the cache agrees with the store again. `Writes`
is what is known between the two, `Commits` what is known at the end. A commit that leaves the role
grants alone needs no second step.
-/

namespace Accounts

/-- The store is ahead of the cache by a commit. -/
structure World.Ahead (w : World) (time : Int) (s : Store) (commit : Commit) : Prop where
  now : w.now = time
  store : w.store = commit.apply s
  agrees : w.cache.Agrees s
  admissible : commit.Admissible s

/-- A commit was made, and the cache agrees with the store. -/
structure World.After (w : World) (time : Int) (s : Store) (commit : Commit) : Prop where
  at_apply : w.At time (commit.apply s)
  admissible : commit.Admissible s

namespace World

variable {w : World} {time : Int} {s : Store} {commit : Commit}

theorem At.ahead (h : w.At time s) : w.Ahead time s .nothing := ⟨h.now, h.store, h.agrees, trivial⟩

theorem At.after (h : w.At time s) : w.After time s .nothing := ⟨h, trivial⟩

theorem Ahead.after (h : w.Ahead time s commit)
    (hroles : (commit.apply s).userRoles = s.userRoles) : w.After time s commit :=
  ⟨⟨h.now, h.store, h.agrees.of_userRoles hroles⟩, h.admissible⟩

end World

namespace Op

variable {α β : Type} {w : World} {time : Int} {s : Store}
variable {ok ok' : α → Commit → Prop} {failed failed' : Commit → Prop}

/-- `op` reads and does not write. -/
def Keeps (op : Op α) (w : World) (time : Int) (s : Store) : Prop :=
  op.Ends w (fun _ w' => w'.At time s) (fun _ w' => w'.At time s)

/-- `op` reads what `found` tells of, and does not write. -/
def Finds (op : Op α) (w : World) (time : Int) (s : Store) (found : α → Prop) : Prop :=
  op.Ends w (fun value w' => found value ∧ w'.At time s) (fun _ w' => w'.At time s)

theorem Finds.keeps {op : Op α} {found : α → Prop} (h : op.Finds w time s found) :
    op.Keeps w time s :=
  Ends.mono h (fun _ _ h => h.2) fun _ _ h => h

/-- `op` leaves the store ahead of the cache by a commit that `ok` or `failed` tells of. -/
def Writes (op : Op α) (w : World) (time : Int) (s : Store) (ok : α → Commit → Prop)
    (failed : Commit → Prop) : Prop :=
  op.Ends w (fun value w' => ∃ commit, ok value commit ∧ w'.Ahead time s commit)
    (fun _ w' => ∃ commit, failed commit ∧ w'.Ahead time s commit)

/-- `op` makes a commit that `ok` or `failed` tells of. -/
def Commits (op : Op α) (w : World) (time : Int) (s : Store) (ok : α → Commit → Prop)
    (failed : Commit → Prop) : Prop :=
  op.Ends w (fun value w' => ∃ commit, ok value commit ∧ w'.After time s commit)
    (fun _ w' => ∃ commit, failed commit ∧ w'.After time s commit)

theorem Commits.mono {op : Op α} (h : op.Commits w time s ok failed)
    (hok : ∀ value commit, commit.Admissible s → ok value commit → ok' value commit)
    (hfailed : ∀ commit, commit.Admissible s → failed commit → failed' commit) :
    op.Commits w time s ok' failed' :=
  Ends.mono h
    (fun value _ ⟨commit, hcommit, hafter⟩ =>
      ⟨commit, hok value commit hafter.admissible hcommit, hafter⟩)
    (fun _ _ ⟨commit, hcommit, hafter⟩ =>
      ⟨commit, hfailed commit hafter.admissible hcommit, hafter⟩)

/-- Reading is a commit of nothing. -/
theorem Keeps.commits {op : Op α} (h : op.Keeps w time s) :
    op.Commits w time s (fun _ commit => commit = .nothing) (· = .nothing) :=
  Ends.mono h (fun _ _ hw => ⟨_, rfl, hw.after⟩) (fun _ _ hw => ⟨_, rfl, hw.after⟩)

/-- Reading is a commit of nothing, with what was found. -/
theorem Finds.commits {op : Op α} {found : α → Prop} (h : op.Finds w time s found) :
    op.Commits w time s (fun value commit => commit = .nothing ∧ found value) (· = .nothing) :=
  Ends.mono h (fun _ _ h => ⟨_, ⟨rfl, h.1⟩, h.2.after⟩) (fun _ _ hw => ⟨_, rfl, hw.after⟩)

/-- A commit that leaves the role grants alone is whole as it is. -/
theorem Writes.commits {op : Op α} (h : op.Writes w time s ok failed)
    (hok : ∀ value commit, ok value commit → ¬commit.IsRoleChange ∧ commit.newUser? = none)
    (hfailed : ∀ commit, failed commit → ¬commit.IsRoleChange ∧ commit.newUser? = none) :
    op.Commits w time s ok failed := by
  refine Ends.mono h ?_ ?_
  · rintro value w' ⟨commit, hcommit, hahead⟩
    obtain ⟨hchange, hnew⟩ := hok value commit hcommit
    exact ⟨commit, hcommit, hahead.after (Commit.userRoles_apply_of_none hchange hnew)⟩
  · rintro _ w' ⟨commit, hcommit, hahead⟩
    obtain ⟨hchange, hnew⟩ := hfailed commit hcommit
    exact ⟨commit, hcommit, hahead.after (Commit.userRoles_apply_of_none hchange hnew)⟩

theorem Writes.withSlot {op : Op α} (hw : w.At time s)
    (h : ∀ w', w'.At time s → op.Writes w' time s ok failed)
    (hbusy : w.slots.isFree = false → failed .nothing) :
    (withSlot op).Writes w time s ok failed := by
  refine Ends.withSlot hw (fun w' hw' => ?_) fun hfree => ⟨_, hbusy hfree, hw.ahead⟩
  refine Ends.mono (h w' hw') ?_ ?_
  · rintro value w'' ⟨commit, hcommit, hahead⟩
    exact ⟨commit, hcommit, hahead.now, hahead.store, hahead.agrees, hahead.admissible⟩
  · rintro _ w'' ⟨commit, hcommit, hahead⟩
    exact ⟨commit, hcommit, hahead.now, hahead.store, hahead.agrees, hahead.admissible⟩

/-- Once the user whose roles were changed is forgotten, the commit is whole. -/
theorem ends_invalidateRoles (hs : s.Sound) {commit : Commit} (hw : w.Ahead time s commit)
    {userId : Int} (howner : commit.roleOwner? = some userId) :
    (invalidateRoles userId).Ends w (fun _ w' => w'.After time s commit) (fun _ _ => False) := by
  refine ⟨⟨hw.now, hw.store, hw.agrees.invalidate fun other hne => ?_⟩, hw.admissible⟩
  refine Commit.rolesOf_apply hs hw.admissible fun e => hne ?_
  exact (Option.some.inj (howner.symm.trans e)).symm

/-- An operation that writes and then forgets the user concerned. -/
theorem Writes.forget (hs : s.Sound) {op : Op α} {userId : α → Int}
    (h : op.Writes w time s ok failed)
    (hok : ∀ value commit, ok value commit → commit.roleOwner? = some (userId value))
    (hfailed : ∀ commit, failed commit → commit = .nothing) :
    (op >>= fun value => invalidateRoles (userId value) >>= fun _ => pure value).Commits w time s
      ok failed := by
  refine Ends.next h ?_ ?_
  · rintro value w' ⟨commit, hcommit, hahead⟩
    exact (ends_invalidateRoles hs hahead (hok value commit hcommit)).next
      (fun _ _ hafter => ⟨commit, hcommit, hafter⟩) fun _ _ h => h.elim
  · rintro _ w' ⟨commit, hcommit, hahead⟩
    exact ⟨commit, hcommit, hahead.after (by rw [hfailed commit hcommit]; rfl)⟩

/-- A check in front of an operation. -/
theorem ends_unless {op : Op α} {refused : Prop} [Decidable refused] {failure : Failure}
    {ok : α → World → Prop} {failed : Failure → World → Prop}
    (hrefused : refused → failed failure w) (h : ¬refused → op.Ends w ok failed) :
    (if refused then (throw failure : Op PUnit) >>= fun _ => op else op).Ends w ok failed := by
  split
  · rename_i hyes
    rw [ends_bind, ends_throw]
    exact hrefused hyes
  · rename_i hno
    exact h hno

theorem ends_sagaIdOr (hw : w.At time s) (sent : Option JsonString) :
    (sagaIdOr sent).Ends w (fun _ w' => w'.At time s) (fun _ _ => False) := by
  cases sent with
  | none => exact ⟨hw.now, hw.store, hw.agrees⟩
  | some sagaId => exact hw

end Op

end Accounts
