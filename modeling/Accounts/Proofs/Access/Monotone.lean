import Accounts.Proofs.Access
import Mathlib.Data.List.Forall2

/-!
# More roles, fewer targets, wider permissions

Any role may supply the permission for an action, and the permission has to reach all the targets.
So a decision depends on which roles and which targets there are and not on their order, and it only
turns in favour of the user when roles are added, targets are taken away or permissions are widened
(`PermissionTable.permits_mono`).
-/

namespace Accounts

namespace Permission

variable {wider p : Permission} {resource : Resource} {action : Action} {userId : Int}
  {target : Target}

/-- The same permission, or one for the same actions on every target. -/
def Widens (wider p : Permission) : Prop := wider = p ∨ wider = { p with scope := .all }

theorem Widens.allows (h : wider.Widens p) (hallows : p.allows resource action = true) :
    wider.allows resource action = true := by
  rcases h with rfl | rfl
  · exact hallows
  · exact hallows

theorem Widens.reaches (h : wider.Widens p) (hreaches : p.scope.reaches userId target = true) :
    wider.scope.reaches userId target = true := by
  rcases h with rfl | rfl
  · exact hreaches
  · rfl

end Permission

namespace PermissionTable

/-- A table with the same roles, whose permissions are as wide or wider. -/
def Widens (wider table : PermissionTable) : Prop :=
  List.Forall₂ (fun entry entry' => entry.1 = entry'.1
    ∧ List.Forall₂ Permission.Widens entry.2 entry'.2) wider table

variable {table wider : PermissionTable} {roles roles' : List Role} {role : Role} {userId : Int}
  {resource : Resource} {action : Action} {targets targets' : List Target}

theorem widens_refl (table : PermissionTable) : table.Widens table :=
  List.forall₂_same.mpr fun _ _ => ⟨rfl, List.forall₂_same.mpr fun _ _ => Or.inl rfl⟩

/-- A role has the same permissions in both tables, or wider ones. -/
theorem Widens.ofRole (h : wider.Widens table) (role : Role) :
    List.Forall₂ Permission.Widens (wider.ofRole role) (table.ofRole role) := by
  induction h with
  | nil => exact .nil
  | @cons entry entry' wider table hentry _ ih =>
      obtain ⟨hrole, hpermissions⟩ := hentry
      unfold PermissionTable.ofRole at ih ⊢
      rw [List.find?_cons, List.find?_cons, hrole]
      cases entry'.1 == role with
      | true => exact hpermissions
      | false => exact ih

theorem exists_widening {permissions permissions' : List Permission} {p : Permission}
    (h : List.Forall₂ Permission.Widens permissions' permissions) (hmem : p ∈ permissions) :
    ∃ wider ∈ permissions', wider.Widens p := by
  induction h with
  | nil => cases hmem
  | cons hhead _ ih =>
      rcases List.mem_cons.mp hmem with rfl | hmem
      · exact ⟨_, List.mem_cons_self, hhead⟩
      · obtain ⟨wider, hwider, hwidens⟩ := ih hmem
        exact ⟨wider, List.mem_cons_of_mem _ hwider, hwidens⟩

theorem RolePermits.mono (hwider : wider.Widens table) (htargets : targets' ⊆ targets)
    (h : table.RolePermits role userId resource action targets) :
    wider.RolePermits role userId resource action targets' := by
  obtain ⟨permission, hmem, hallows, hreaches⟩ := h
  obtain ⟨permission', hmem', hwidens⟩ := exists_widening (hwider.ofRole role) hmem
  exact ⟨permission', hmem', hwidens.allows hallows,
    fun target htarget => hwidens.reaches (hreaches target (htargets htarget))⟩

/-- What is permitted stays so for more roles, for fewer targets and by wider permissions. -/
theorem permits_mono (hwider : wider.Widens table) (hroles : roles ⊆ roles')
    (htargets : targets' ⊆ targets)
    (h : table.permits roles userId resource action targets = true) :
    wider.permits roles' userId resource action targets' = true := by
  obtain ⟨role, hrole, hpermits⟩ := permits_iff.mp h
  exact permits_iff.mpr ⟨role, hroles hrole, hpermits.mono hwider htargets⟩

/-- Neither the order of roles and targets matters, nor how often they are named. -/
theorem permits_congr (hroles : ∀ role, role ∈ roles ↔ role ∈ roles')
    (htargets : ∀ target, target ∈ targets ↔ target ∈ targets') :
    table.permits roles userId resource action targets
      = table.permits roles' userId resource action targets' :=
  Bool.eq_iff_iff.mpr
    ⟨permits_mono (widens_refl table) (fun role => (hroles role).mp)
        fun target => (htargets target).mpr,
      permits_mono (widens_refl table) (fun role => (hroles role).mpr)
        fun target => (htargets target).mp⟩

theorem ofRole_eq_nil (h : ∀ permissions, (role, permissions) ∉ table) :
    table.ofRole role = [] := by
  have hnone : table.find? (·.1 == role) = none := by
    rw [List.find?_eq_none]
    rintro ⟨other, permissions⟩ hmem hrole
    obtain rfl := beq_iff_eq.mp hrole
    exact h permissions hmem
  unfold ofRole
  rw [hnone]

/-- A role that is not listed adds nothing to the others. -/
theorem permits_of_unlisted (h : ∀ permissions, (role, permissions) ∉ table)
    (front back : List Role) :
    table.permits (front ++ role :: back) userId resource action targets
      = table.permits (front ++ back) userId resource action targets := by
  unfold permits ofRoles
  rw [List.flatMap_append, List.flatMap_cons, ofRole_eq_nil h, List.nil_append,
    List.flatMap_append]

/-- Where no role is listed, nothing is permitted, and so nothing without a role. -/
theorem permits_eq_false {roles : List Role}
    (h : ∀ role ∈ roles, ∀ permissions, (role, permissions) ∉ table) :
    table.permits roles userId resource action targets = false := by
  have hnone : table.ofRoles roles = [] :=
    List.flatMap_eq_nil_iff.mpr fun role hrole => ofRole_eq_nil (h role hrole)
  unfold permits
  rw [hnone]
  rfl

end PermissionTable

namespace Op

variable {userId : Int} {resource : Resource} {action : Action} {targets targets' : List Target}

/-- What a caller may do to some targets does not depend on how they are listed. -/
theorem can_congr (caller : Caller) (w : World)
    (htargets : ∀ target, target ∈ targets ↔ target ∈ targets') :
    (can caller resource action targets).exec w = (can caller resource action targets').exec w := by
  cases hauthority : caller.authority with
  | system => rw [can, can, hauthority]
  | nobody => rw [can, can, hauthority]
  | user userId =>
      have hpermits : ∀ roles, PermissionTable.application.permits roles userId resource action
          targets = PermissionTable.application.permits roles userId resource action targets' :=
        fun roles => PermissionTable.permits_congr (fun _ => Iff.rfl) htargets
      rw [can, can, hauthority]
      simp only [hpermits]

theorem can_told (w : World) {caller : Caller} (hcaller : caller.authority = .user userId) :
    ((can caller resource action targets).exec w).1 =
      .ok (PermissionTable.application.permits (w.rolesFound userId) userId resource action
        targets) := by
  obtain ⟨cache, hexec⟩ := can_exec w hcaller
  rw [hexec]

theorem can_mono {w w' : World} {caller : Caller} (hcaller : caller.authority = .user userId)
    (hroles : w.rolesFound userId ⊆ w'.rolesFound userId) (htargets : targets' ⊆ targets)
    (h : ((can caller resource action targets).exec w).1 = .ok true) :
    ((can caller resource action targets').exec w').1 = .ok true := by
  rw [can_told w hcaller] at h
  have hpermits := Except.ok.inj h
  rw [can_told w' hcaller]
  exact congrArg Except.ok
    (PermissionTable.permits_mono (PermissionTable.widens_refl _) hroles htargets hpermits)

end Op

/-- Decisions depend on which roles and which targets there are. Whatever roles are added, targets
left out or permissions widened, nobody is refused who was not. Roles that are not listed add
nothing; without any other, or without a role at all, nothing is permitted. The same holds of what
callers are told, whose roles are those that a lookup finds. -/
theorem access_monotone (userId : Int) (resource : Resource) (action : Action) :
    (∀ (table : PermissionTable) (roles roles' : List Role) (targets targets' : List Target),
        (∀ role, role ∈ roles ↔ role ∈ roles') → (∀ target, target ∈ targets ↔ target ∈ targets') →
        table.permits roles userId resource action targets
          = table.permits roles' userId resource action targets')
      ∧ (∀ (table wider : PermissionTable) (roles roles' : List Role)
          (targets targets' : List Target), wider.Widens table → roles ⊆ roles' →
        targets' ⊆ targets → table.permits roles userId resource action targets = true →
        wider.permits roles' userId resource action targets' = true)
      ∧ (∀ (table : PermissionTable) (role : Role) (front back : List Role)
          (targets : List Target), (∀ permissions, (role, permissions) ∉ table) →
        table.permits (front ++ role :: back) userId resource action targets
          = table.permits (front ++ back) userId resource action targets)
      ∧ (∀ (table : PermissionTable) (roles : List Role) (targets : List Target),
        (∀ role ∈ roles, ∀ permissions, (role, permissions) ∉ table) →
        table.permits roles userId resource action targets = false)
      ∧ (∀ (w : World) (caller : Caller) (targets targets' : List Target),
        (∀ target, target ∈ targets ↔ target ∈ targets') →
        (Op.can caller resource action targets).exec w
          = (Op.can caller resource action targets').exec w)
      ∧ (∀ (w : World) (caller : Caller) (targets : List Target),
        caller.authority = .user userId → w.rolesFound userId = [] →
        ((Op.can caller resource action targets).exec w).1 = .ok false)
      ∧ ∀ (w w' : World) (caller : Caller) (targets targets' : List Target),
        caller.authority = .user userId → w.rolesFound userId ⊆ w'.rolesFound userId →
        targets' ⊆ targets → ((Op.can caller resource action targets).exec w).1 = .ok true →
        ((Op.can caller resource action targets').exec w').1 = .ok true :=
  ⟨fun _ _ _ _ _ => PermissionTable.permits_congr,
    fun _ _ _ _ _ _ => PermissionTable.permits_mono,
    fun _ _ front back _ h => PermissionTable.permits_of_unlisted h front back,
    fun _ _ _ => PermissionTable.permits_eq_false, fun w caller _ _ => Op.can_congr caller w,
    fun w _ _ hcaller hnone => (Op.can_told w hcaller).trans (congrArg Except.ok
      (PermissionTable.permits_eq_false (by simp [hnone]))),
    fun _ _ _ _ _ => Op.can_mono⟩

/-- Two targets in either order, a role that is not listed, a permission that comes to reach
everybody, and a user who becomes a superuser. -/
theorem access_monotone_of_promotion :
    let narrow : PermissionTable := [(.user, [⟨.users, .update, .owned⟩])]
    let wide : PermissionTable := [(.user, [⟨.users, .update, .all⟩])]
    let own : List Target := [.user 5, .ownedBy 5]
    let ann : Caller := ⟨some 5, some (.text "ann@example.com"), .user 5⟩
    let w : World := ⟨0, .empty, .empty 600 0, ⟨1, 0, true⟩, .start [], []⟩
    let before : World := { w with cache.entries := [(5, ⟨[.user], 60⟩)] }
    let after : World := { w with cache.entries := [(5, ⟨[.superuser, .user], 60⟩)] }
    narrow.permits [.user, .superuser, .user] 5 .users .update [.user 6, .user 5]
        = narrow.permits [.superuser, .user] 5 .users .update [.user 5, .user 6, .user 5]
      ∧ (narrow.permits [.user] 5 .users .update own = true
        ∧ wide.permits [.superuser, .user] 5 .users .update [.ownedBy 5] = true)
      ∧ narrow.permits ([] ++ .superuser :: [.user]) 5 .users .update own
        = narrow.permits ([] ++ [.user]) 5 .users .update own
      ∧ narrow.permits [.superuser, .superuser] 5 .users .update own = false
      ∧ (Op.can ann .users .update [.user 5, .user 6]).exec before
        = (Op.can ann .users .update [.user 6, .user 5]).exec before
      ∧ ((Op.can ann .users .update own).exec before).1 = .ok true
      ∧ ((Op.can ann .users .update [.ownedBy 5]).exec after).1 = .ok true := by
  intro narrow wide own ann w before after
  obtain ⟨horder, hmono, hunlisted, hnothing, hcan, -, hcanMono⟩ := access_monotone 5 .users .update
  have hwidens : wide.Widens narrow := .cons ⟨rfl, .cons (Or.inr rfl) .nil⟩ .nil
  have hfewer : [.ownedBy 5] ⊆ own := by decide
  have hpermits : narrow.permits [.user] 5 .users .update own = true := rfl
  have hmay : ((Op.can ann .users .update own).exec before).1 = .ok true := rfl
  have hunlisted' : ∀ permissions, (Role.superuser, permissions) ∉ narrow := by
    intro permissions hmem
    cases List.mem_singleton.mp hmem
  have hroles : ∀ role, role ∈ [Role.user, .superuser, .user] ↔ role ∈ [Role.superuser, .user] := by
    intro role
    cases role <;> decide
  exact ⟨horder narrow _ _ _ _ hroles (by simp),
    ⟨hpermits, hmono narrow wide _ _ _ _ hwidens (by decide) hfewer hpermits⟩,
    hunlisted narrow .superuser [] [.user] own hunlisted',
    hnothing narrow _ own (by simpa using hunlisted'),
    hcan before ann _ _ (by simp [or_comm]), hmay,
    hcanMono before after ann own _ rfl (by decide) hfewer hmay⟩

end Accounts
