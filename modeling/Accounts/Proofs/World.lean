import Accounts.Proofs.Access
import Accounts.Proofs.RoleCache.Traffic

/-!
# Rights and the cache of roles

Rights are decided by the roles that the cache answers, and granted by the store. Between
operations the cache agrees with the store: what it holds of a user are the roles that the user
has. So a right that was required and not refused is one that the store grants; a user whose roles
could not be read is only ever refused more.
-/

namespace Accounts

/-! ## What the store grants -/

/-- The roles behind an authority. -/
def Store.held (s : Store) : Authority → List Role
  | .user id => (s.rolesOf id).map (·.role)
  | _ => []

/-- The store lets a caller do an action on all the targets. -/
def Store.Permits (s : Store) (caller : Caller) (resource : Resource) (action : Action)
    (targets : List Target) : Prop :=
  caller.authority.permits .application (s.held caller.authority) resource action targets = true

/-! ## The cache at rest -/

namespace RoleCache

/-- Whatever the cache holds of a user are the user's roles in the store. -/
def Agrees (cache : RoleCache Int) (s : Store) : Prop :=
  ∀ entry ∈ cache.entries, entry.2.roles = (s.held (.user entry.1)).eraseDups

variable {cache : RoleCache Int} {s s' : Store}

/-- Once a user is forgotten, the cache agrees with a store in which nobody else's roles
changed. -/
theorem Agrees.invalidate (h : cache.Agrees s) {userId : Int}
    (hroles : ∀ other ≠ userId, s'.rolesOf other = s.rolesOf other) :
    (cache.invalidate userId).Agrees s' := by
  intro entry hmem
  obtain ⟨hmem, hne⟩ := Table.mem_erase.mp (show entry ∈ cache.entries.erase userId from hmem)
  rw [h entry hmem, Store.held, Store.held, hroles entry.1 hne]

theorem Agrees.of_userRoles (h : cache.Agrees s) (hroles : s'.userRoles = s.userRoles) :
    cache.Agrees s' := by
  intro entry hmem
  rw [h entry hmem]
  simp only [Store.held, Store.rolesOf, hroles]

end RoleCache

namespace World

/-- The world at a time, with a store that its cache agrees with. -/
structure At (w : World) (time : Int) (s : Store) : Prop where
  now : w.now = time
  store : w.store = s
  agrees : w.cache.Agrees s

variable {w : World} {time : Int} {s s' : Store}

theorem At.slots (h : w.At time s) (slots : Slots) : At { w with slots := slots } time s :=
  ⟨h.now, h.store, h.agrees⟩

end World

namespace Op

variable {α : Type} {w : World} {time : Int} {s : Store}
variable {ok : α → World → Prop} {failed : Failure → World → Prop}

theorem Ends.withSlot {op : Op α} (hw : w.At time s)
    (h : ∀ w', w'.At time s → op.Ends w'
      (fun value w'' =>
        ok value { w'' with slots := { w''.slots with inUse := w''.slots.inUse - 1 } })
      (fun failure w'' => failed (insideSlot failure)
        { w'' with slots := { w''.slots with inUse := w''.slots.inUse - 1 } }))
    (hbusy : w.slots.isFree = false → failed (.service (.store .noSlot)) w) :
    (withSlot op).Ends w ok failed := by
  rw [ends_withSlot]
  split
  · exact h _ (hw.slots _)
  · rename_i hfree
    exact hbusy (Bool.not_eq_true _ ▸ hfree)

theorem ends_readInSlot (hw : w.At time s) (f : Store → α) :
    (Op.withSlot (read f)).Ends w (fun value w' => value = f s ∧ w'.At time s)
      (fun _ w' => w'.At time s) := by
  refine (ends_readBack f).mono ?_ ?_
  · rintro value w' ⟨hvalue, rfl⟩
    exact ⟨by rw [hvalue, hw.store], hw⟩
  · rintro _ w' rfl
    exact hw

/-- The roles that are answered are roles that the user has. -/
theorem ends_rolesOf (hw : w.At time s) (userId : Int) :
    (rolesOf userId).Ends w
      (fun roles w' => w'.At time s ∧ ∀ role ∈ roles, role ∈ s.held (.user userId))
      (fun _ _ => False) := by
  have hexec : (rolesOf userId).exec w = rolesOf userId w := rfl
  unfold Ends
  rw [hexec, rolesOf]
  rcases w.cache.begin_cases w.now userId with
    ⟨entry, hget, -, hbegin⟩ | ⟨entries, hsub, hbegin⟩ <;> rw [hbegin]
  · refine ⟨⟨hw.now, hw.store, hw.agrees⟩, fun role hrole => ?_⟩
    rw [hw.agrees _ (Table.mem_of_get? hget)] at hrole
    exact List.mem_eraseDups.mp hrole
  · have hload : ∀ roles, loadRoles w userId = some roles → roles = s.held (.user userId) := by
      intro roles hroles
      unfold loadRoles at hroles
      split at hroles
      · rw [← Option.some.inj hroles, hw.store]
        rfl
      · cases hroles
    refine ⟨⟨hw.now, hw.store, fun entry hmem => ?_⟩, fun role hrole => ?_⟩
    · rcases RoleCache.mem_finish_entries hmem with hold | ⟨roles, hroles, -, rfl⟩
      · exact hw.agrees entry (hsub entry hold)
      · rw [hload roles hroles]
    · cases hroles : loadRoles w userId with
      | none => rw [hroles] at hrole; cases hrole
      | some roles =>
          rw [hroles] at hrole
          rw [← hload roles hroles]
          exact List.mem_eraseDups.mp hrole

/-- A caller who may, may by the store. -/
theorem ends_can (hw : w.At time s) (caller : Caller) (resource : Resource) (action : Action)
    (targets : List Target) :
    (can caller resource action targets).Ends w
      (fun may w' => w'.At time s ∧ (may = true → s.Permits caller resource action targets))
      (fun _ _ => False) := by
  unfold can Store.Permits
  cases caller.authority with
  | system => exact ⟨hw, fun _ => rfl⟩
  | nobody => exact ⟨hw, fun h => absurd h Bool.false_ne_true⟩
  | user id =>
      exact (ends_rolesOf hw id).next (fun roles w' ⟨hw', hroles⟩ =>
        ⟨hw', fun hmay => PermissionTable.permits_of_subset hmay hroles⟩) fun _ _ h => h

/-- A right that was required and not refused is one that the store grants. -/
theorem ends_require (hw : w.At time s) (caller : Caller) (resource : Resource) (action : Action)
    (targets : List Target) :
    (require caller resource action targets).Ends w
      (fun _ w' => w'.At time s ∧ s.Permits caller resource action targets)
      (fun failure w' => failure = .service (.denied action resource) ∧ w'.At time s) := by
  unfold require
  refine (ends_can hw caller resource action targets).next ?_ fun _ _ h => h.elim
  rintro (_ | _) w' ⟨hw', hmay⟩
  · exact ⟨rfl, hw'⟩
  · exact ⟨hw', hmay rfl⟩

/-- A caller has the authority of a user that the store has, or none. -/
theorem ends_resolveCaller (hw : w.At time s) (email : Option JsonString) :
    (resolveCaller email).Ends w
      (fun caller w' => w'.At time s
        ∧ (caller.userId = none ∧ caller.authority = .nobody
          ∨ ∃ user, email.bind s.findUserByAddress = some user
            ∧ caller = ⟨some user.id, some (.text user.email), .user user.id⟩))
      (fun _ w' => w'.At time s) := by
  unfold resolveCaller
  cases email with
  | none => exact ⟨hw, Or.inl ⟨rfl, rfl⟩⟩
  | some email =>
      dsimp only
      split
      · exact ⟨hw, Or.inl ⟨rfl, rfl⟩⟩
      · refine (ends_readInSlot hw _).next ?_ fun _ _ h => h
        rintro (_ | user) w' ⟨huser, hw'⟩
        · exact ⟨hw', Or.inl ⟨rfl, rfl⟩⟩
        · exact ⟨hw', Or.inr ⟨user, huser.symm, rfl⟩⟩

end Op

end Accounts
