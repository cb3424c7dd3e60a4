import Accounts.Proofs.Service.Basic
import Accounts.Service.Roles

/-!
# What operations on role grants commit

Every grant that comes or goes does so by the right of the caller, as the store has it, and the
user concerned is forgotten behind it.
-/

namespace Accounts.Roles

open Op

variable {w : World} {time : Int} {s : Store}

theorem list_keeps (hw : w.At time s) (caller : Caller) (userId : Int) :
    (Roles.list caller userId).Keeps w time s :=
  (ends_require hw caller _ _ _).next
    (fun _ _ ⟨hw', _⟩ => (ends_readInSlot hw' _).mono (fun _ _ h => h.2) fun _ _ h => h)
    fun _ _ h => h.2

theorem grant_writes (hw : w.At time s) (payload : NewUserRole) :
    (grant payload).Writes w time s
      (fun role commit => role.userId = payload.userId ∧ role.role = payload.role
        ∧ commit = .grant role)
      (· = .nothing) := by
  unfold grant Writes
  rw [ends_bind, ends_now]
  refine Writes.withSlot hw (fun w₁ hw₁ => ?_) fun _ => rfl
  exact ends_put.mpr ⟨_, ⟨rfl, rfl, rfl⟩, hw₁.now, by rw [hw₁.store]; rfl, hw₁.agrees,
    by rw [hw₁.store]; rfl⟩

/-- A grant by a caller who may. -/
def Grants (s : Store) (caller : Caller) (payload : NewUserRole) (role : UserRole)
    (commit : Commit) : Prop :=
  s.Permits caller .userRoles .create [.ownedBy payload.userId]
    ∧ role.userId = payload.userId ∧ role.role = payload.role ∧ commit = .grant role

theorem create_commits (hw : w.At time s) (hs : s.Sound) (caller : Caller)
    (payload : NewUserRole) :
    (Roles.create caller payload).Commits w time s (Grants s caller payload) (· = .nothing) := by
  unfold Roles.create
  refine (ends_require hw caller _ _ _).next ?_ fun _ _ h => ⟨_, rfl, h.2.after⟩
  rintro _ w₁ ⟨hw₁, hpermits⟩
  refine (Writes.forget hs (grant_writes hw₁ payload) ?_ fun _ h => h).mono
    (fun _ _ _ h => ⟨hpermits, h⟩) fun _ _ h => h
  rintro role commit ⟨howner, -, rfl⟩
  exact congrArg some howner

theorem createDefault_commits (hw : w.At time s) (hs : s.Sound) (caller : Caller) (userId : Int) :
    (createDefault caller userId).Commits w time s (Grants s caller ⟨userId, defaultRole⟩)
      (· = .nothing) :=
  create_commits hw hs caller _

/-- A revocation by a caller who may. -/
def Revokes (s : Store) (caller : Caller) (role : UserRole) (commit : Commit) : Prop :=
  s.Permits caller .userRoles .delete [.userRole role.userId] ∧ commit = .revoke role

theorem revoke_writes (hw : w.At time s) (hs : s.Sound) (caller : Caller) (id : Int) :
    (revoke caller id).Writes w time s (Revokes s caller) (· = .nothing) := by
  refine Writes.withSlot hw (fun w₁ hw₁ => ?_) fun _ => rfl
  unfold Writes
  rw [ends_bind, ends_read, hw₁.store]
  cases hfind : s.findRole id with
  | none => exact ⟨_, rfl, hw₁.ahead⟩
  | some role =>
      refine (ends_require hw₁ caller _ _ _).next ?_ fun _ _ h => ⟨_, rfl, h.2.ahead⟩
      rintro _ w₂ ⟨hw₂, hpermits⟩
      have hid : role.id = id := (hs.role_id hfind).1
      rw [ends_write, hw₂.store, Store.deleteRole, hfind]
      exact ⟨_, ⟨hpermits, rfl⟩, hw₂.now, by rw [Commit.apply, hid], hw₂.agrees,
        show s.userRoles.get? role.id = some role from hid ▸ hfind⟩

theorem delete_commits (hw : w.At time s) (hs : s.Sound) (caller : Caller) (id : Int) :
    (Roles.delete caller id).Commits w time s (Revokes s caller) (· = .nothing) := by
  refine Writes.forget hs (revoke_writes hw hs caller id) ?_ fun _ h => h
  rintro role commit ⟨-, rfl⟩
  rfl

theorem revokeAll_writes (hw : w.At time s) (userId : Int) :
    (revokeAll userId).Writes w time s (fun _ commit => commit = .revokeAll userId)
      (· = .nothing) :=
  Writes.withSlot hw (fun _ hw₁ => ends_put.mpr
    ⟨_, rfl, hw₁.now, by rw [hw₁.store]; rfl, hw₁.agrees, trivial⟩) fun _ => rfl

theorem deleteAll_commits (hw : w.At time s) (hs : s.Sound) (caller : Caller) (userId : Int) :
    (deleteAll caller userId).Commits w time s
      (fun _ commit => s.Permits caller .userRoles .delete [.ownedBy userId]
        ∧ commit = .revokeAll userId)
      (· = .nothing) := by
  unfold deleteAll
  refine (ends_require hw caller _ _ _).next ?_ fun _ _ h => ⟨_, rfl, h.2.after⟩
  rintro _ w₁ ⟨hw₁, hpermits⟩
  refine (Writes.forget hs (revokeAll_writes hw₁ userId) ?_ fun _ h => h).mono
    (fun _ _ _ h => ⟨hpermits, h⟩) fun _ _ h => h
  rintro roles commit rfl
  rfl

end Accounts.Roles
