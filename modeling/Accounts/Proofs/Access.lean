import Accounts.Proofs.Op

/-!
# What roles permit

A table permits what one permission of one role allows on all the targets together. For the table of
the application `PermissionTable.Entitled` says the same without permissions and scopes in between:
superusers may do everything, and users what is listed in `PermissionTable.UserMay`. The roles of a
user are those that the cache answers, or none if the store could not be asked.
-/

namespace Accounts

namespace PermissionTable

variable {table : PermissionTable} {roles roles' : List Role} {userId : Int} {resource : Resource}
  {action : Action} {targets : List Target}

/-- A role permits an action on all the targets by one permission. -/
def RolePermits (table : PermissionTable) (role : Role) (userId : Int) (resource : Resource)
    (action : Action) (targets : List Target) : Prop :=
  ∃ permission ∈ table.ofRole role, permission.allows resource action = true
    ∧ ∀ target ∈ targets, permission.scope.reaches userId target = true

theorem permits_iff : table.permits roles userId resource action targets = true ↔
    ∃ role ∈ roles, table.RolePermits role userId resource action targets := by
  simp only [permits, ofRoles, RolePermits, List.any_eq_true, List.mem_flatMap, Bool.and_eq_true,
    List.all_eq_true]
  constructor
  · rintro ⟨permission, ⟨role, hrole, hmem⟩, hpermits⟩
    exact ⟨role, hrole, permission, hmem, hpermits⟩
  · rintro ⟨role, hrole, permission, hmem, hpermits⟩
    exact ⟨permission, ⟨role, hrole, hmem⟩, hpermits⟩

/-- More roles grant no less. -/
theorem permits_of_subset (h : table.permits roles userId resource action targets = true)
    (hsub : ∀ role ∈ roles, role ∈ roles') :
    table.permits roles' userId resource action targets = true := by
  obtain ⟨role, hrole, hpermits⟩ := permits_iff.mp h
  exact permits_iff.mpr ⟨role, hsub role hrole, hpermits⟩

/-- Roles that stand more than once permit nothing more. -/
theorem permits_eraseDups : table.permits roles.eraseDups userId resource action targets
    = table.permits roles userId resource action targets :=
  Bool.eq_iff_iff.mpr
    ⟨fun h => permits_of_subset h fun _ hmem => List.mem_eraseDups.mp hmem,
      fun h => permits_of_subset h fun _ hmem => List.mem_eraseDups.mpr hmem⟩

/-- A lookup that failed is as good as no roles. -/
theorem permits_answer {loaded : Option (List Role)} :
    table.permits (RoleCache.answer loaded) userId resource action targets
      = table.permits (loaded.getD []) userId resource action targets := permits_eraseDups

/-! ## The table of the application -/

/-- What users may do: read all users, do anything to what is their own among users, and read what
is their own among role grants. -/
def UserMay (userId : Int) (resource : Resource) (action : Action) (targets : List Target) : Prop :=
  resource = .users ∧ action = .read
    ∨ resource = .users ∧ (∀ target ∈ targets, target.owner = userId)
    ∨ resource = .userRoles ∧ action = .read ∧ ∀ target ∈ targets, target.owner = userId

/-- What the holder of some roles may do. -/
def Entitled (roles : List Role) (userId : Int) (resource : Resource) (action : Action)
    (targets : List Target) : Prop :=
  .superuser ∈ roles ∨ .user ∈ roles ∧ UserMay userId resource action targets

theorem superuser_permits : application.RolePermits .superuser userId resource action targets := by
  cases resource with
  | users =>
      exact ⟨⟨.users, .all, .all⟩, List.mem_cons_self, by cases action <;> rfl, fun _ _ => rfl⟩
  | userRoles =>
      exact ⟨⟨.userRoles, .all, .all⟩, List.mem_cons_of_mem _ List.mem_cons_self,
        by cases action <;> rfl, fun _ _ => rfl⟩

theorem user_permits_iff : application.RolePermits .user userId resource action targets ↔
    UserMay userId resource action targets := by
  have hrole : application.ofRole .user =
      [⟨.users, .read, .all⟩, ⟨.users, .all, .owned⟩, ⟨.userRoles, .read, .owned⟩] := rfl
  -- one alternative for each permission of the role
  simp only [RolePermits, hrole, List.mem_cons, List.not_mem_nil, or_false, exists_eq_or_imp,
    exists_eq_left, Scope.reaches, beq_iff_eq, UserMay]
  cases resource <;> cases action <;> simp [Permission.allows]

/-- The table decides as `Entitled` says. -/
theorem application_permits_iff : application.permits roles userId resource action targets = true ↔
    Entitled roles userId resource action targets := by
  rw [permits_iff, Entitled, ← user_permits_iff]
  constructor
  · rintro ⟨role, hrole, hpermits⟩
    cases role with
    | superuser => exact Or.inl hrole
    | user => exact Or.inr ⟨hrole, hpermits⟩
  · rintro (hrole | ⟨hrole, hpermits⟩)
    · exact ⟨.superuser, hrole, superuser_permits⟩
    · exact ⟨.user, hrole, hpermits⟩

/-- Neither permission reaches both targets. -/
example : application.permits [.user] 5 .users .delete [.user 5, .ownedBy 6] = false := rfl

/-- What a user may do who is no superuser. -/
theorem application_permits_of_not_superuser
    (h : application.permits roles userId resource action targets = true)
    (hroles : .superuser ∉ roles) : UserMay userId resource action targets :=
  ((application_permits_iff.mp h).resolve_left hroles).2

end PermissionTable

/-! ## Lookups -/

/-- The roles that a lookup comes to: those of the cache, else what could be loaded. -/
def World.rolesFound (w : World) (userId : Int) : List Role :=
  match (w.cache.begin w.now userId).1 with
  | .cached roles => roles
  | .loading _ => (Op.loadRoles w userId).getD []

namespace Op

variable {userId : Int} {resource : Resource} {action : Action} {targets : List Target}

/-- A right is decided by the roles that the lookup comes to, and the cache is all that changes. -/
theorem can_exec (w : World) {caller : Caller} (h : caller.authority = .user userId) :
    ∃ cache, (can caller resource action targets).exec w =
      (.ok (PermissionTable.application.permits (w.rolesFound userId) userId resource action
        targets), { w with cache }) := by
  have hcan : can caller resource action targets =
      (rolesOf userId >>= fun roles =>
        pure (PermissionTable.application.permits roles userId resource action targets)) := by
    unfold can
    rw [h]
  have hexec : (rolesOf userId).exec w = rolesOf userId w := rfl
  rw [hcan, exec_bind, hexec, rolesOf, World.rolesFound]
  rcases w.cache.begin w.now userId with ⟨roles | ticket, cache⟩
  · exact ⟨cache, rfl⟩
  · dsimp only
    rw [← PermissionTable.permits_answer]
    exact ⟨_, rfl⟩

end Op

/-- Whatever roles are held, and wherever they come from, a user may do exactly what the roles
entitle the user to. A lookup that failed counts as no roles. -/
theorem access_decision (userId : Int) (resource : Resource) (action : Action)
    (targets : List Target) :
    (∀ roles, PermissionTable.application.permits roles userId resource action targets = true ↔
        PermissionTable.Entitled roles userId resource action targets)
      ∧ (∀ loaded, PermissionTable.application.permits (RoleCache.answer loaded) userId resource
          action targets = true ↔
        PermissionTable.Entitled (loaded.getD []) userId resource action targets)
      ∧ ∀ (w : World) (who : Option Int) (email : Option JsonString), ∃ may cache,
        (Op.can ⟨who, email, .user userId⟩ resource action targets).exec w =
            (.ok may, { w with cache })
          ∧ (may = true ↔
            PermissionTable.Entitled (w.rolesFound userId) userId resource action targets) := by
  refine ⟨fun roles => PermissionTable.application_permits_iff, fun loaded => ?_, ?_⟩
  · rw [PermissionTable.permits_answer]
    exact PermissionTable.application_permits_iff
  · intro w who email
    have hauthority : (Caller.mk who email (.user userId)).authority = .user userId := rfl
    obtain ⟨cache, hexec⟩ := Op.can_exec w hauthority
    exact ⟨_, cache, hexec, PermissionTable.application_permits_iff⟩

end Accounts
