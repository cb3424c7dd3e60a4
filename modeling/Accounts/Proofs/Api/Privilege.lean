import Accounts.Proofs.Run

/-!
# Nobody gains privileges

Role grants change by the right of a superuser only. Rights are decided on cached roles, but the
cache agrees with the store between events, so a request of somebody who has no superuser's grant
in the store finds no right to change grants. All that such a request can add is the role that a
new user starts with.
-/

namespace Accounts

open Op

/-- A caller who has a superuser's grant in the store. -/
def Store.HoldsSuperuser (s : Store) (caller : Caller) : Prop :=
  ∃ key role, s.userRoles.get? key = some role ∧ caller.userId = some role.userId
    ∧ role.role = .superuser

namespace Caller

variable {s : Store} {caller : Caller}

theorem IsKnown.holdsSuperuser (h : caller.IsKnown s) (hs : s.Sound)
    (hheld : .superuser ∈ s.held caller.authority) : s.HoldsSuperuser caller := by
  rcases h with ⟨-, hnobody⟩ | ⟨user, -, rfl⟩
  · rw [hnobody] at hheld
    cases hheld
  · obtain ⟨role, hrole, hname⟩ := List.mem_map.mp
      (show Role.superuser ∈ (s.rolesOf user.id).map (·.role) from hheld)
    obtain ⟨hmem, howner⟩ := List.mem_filter.mp hrole
    obtain ⟨key, hkey⟩ := (Table.mem_values_iff hs.roles_unique).mp hmem
    exact ⟨key, role, hkey, by rw [beq_iff_eq.mp howner], hname⟩

/-- What a caller of a request may do without a superuser's grant: only users may do anything, and
other than reading, only to themselves. -/
theorem IsKnown.permits_cases (h : caller.IsKnown s) (hs : s.Sound)
    (hnot : ¬s.HoldsSuperuser caller) {resource : Resource} {action : Action}
    {targets : List Target} (hpermits : s.Permits caller resource action targets) :
    ∃ user, s.users.get? user.id = some user
      ∧ caller = ⟨some user.id, some (.text user.email), .user user.id⟩
      ∧ (action = .read
        ∨ resource = .users ∧ ∀ target ∈ targets, target.owner = user.id) := by
  have hheld : .superuser ∉ s.held caller.authority := fun hmem => hnot (h.holdsSuperuser hs hmem)
  rcases h with ⟨-, hnobody⟩ | ⟨user, huser, rfl⟩
  · rw [Store.Permits, hnobody] at hpermits
    cases hpermits
  · refine ⟨user, huser, rfl, ?_⟩
    rcases PermissionTable.application_permits_of_not_superuser hpermits hheld with
      ⟨-, hread⟩ | ⟨hresource, howners⟩ | ⟨-, hread, -⟩
    · exact Or.inl hread
    · exact Or.inr ⟨hresource, howners⟩
    · exact Or.inl hread

end Caller

/-- Without a superuser's grant there is no licence to change grants. -/
theorem Commit.Licensed.not_isRoleChange {s : Store} {caller : Caller} {commit : Commit}
    (h : commit.Licensed s caller) (hknown : caller.IsKnown s) (hs : s.Sound)
    (hnot : ¬s.HoldsSuperuser caller) : ¬commit.IsRoleChange := by
  have hrefuse : ∀ {action targets}, action ≠ .read →
      ¬s.Permits caller .userRoles action targets := by
    intro action targets hread hpermits
    obtain ⟨user, -, -, hcase⟩ := hknown.permits_cases hs hnot hpermits
    rcases hcase with h | ⟨hresource, -⟩
    · exact hread h
    · cases hresource
  cases commit with
  | grant role => exact fun _ => hrefuse (by simp) h
  | revoke role => exact fun _ => hrefuse (by simp) h
  | revokeAll userId => exact fun _ => hrefuse (by simp) h
  | _ => exact fun hchange => hchange

namespace Api

variable {setup : Setup} {request : Http.Request} {s : Store} {caller : Caller} {commit : Commit}

/-- No endpoint changes grants for somebody without a superuser's grant. -/
theorem Endpoint.Does.not_isRoleChange {endpoint : Endpoint}
    (h : endpoint.Does setup request s caller commit) (hknown : caller.IsKnown s) (hs : s.Sound)
    (hnot : ¬s.HoldsSuperuser caller) : ¬commit.IsRoleChange := by
  have hsignsIn : ∀ {provider token}, SignIn.SignsInBy setup.providers provider token commit →
      ¬commit.IsRoleChange := by
    rintro provider token (rfl | ⟨profile, -, rfl | ⟨before, after, identity, rfl, -⟩ |
      ⟨user, identity, role, rfl, -⟩⟩) <;> exact False.elim
  have hspends : ∀ {token tokenType}, Credentials.Spends s token tokenType commit →
      ¬commit.IsRoleChange := by
    rintro token tokenType (rfl | ⟨row, -, rfl⟩) <;> exact False.elim
  cases endpoint with
  | healthcheck =>
      obtain rfl := h
      exact False.elim
  | createUser =>
      rcases h with rfl | ⟨payload, user, -, identity, role, rfl, -⟩ <;> exact False.elim
  | jwtEmail =>
      rcases h with rfl | ⟨payload, -, before, after, -, rfl⟩ <;> exact False.elim
  | jwtGoogle =>
      rcases h with rfl | ⟨payload, -, hsigns⟩
      · exact False.elim
      · exact hsignsIn hsigns
  | jwtFacebook =>
      rcases h with rfl | ⟨payload, -, hsigns⟩
      · exact False.elim
      · exact hsignsIn hsigns
  | applyPasswordReset =>
      rcases h with rfl | ⟨payload, -, ⟨user, row, before, identity, -, -, rfl⟩ | hspent⟩
      · exact False.elim
      · exact False.elim
      · exact hspends hspent
  | applyEmailVerification =>
      rcases h with rfl | ⟨payload, -, ⟨user, row, before, identity, -, rfl⟩ | hspent⟩
      · exact False.elim
      · exact False.elim
      · exact hspends hspent
  | _ => exact Commit.Licensed.not_isRoleChange h hknown hs hnot

theorem MayCommit.not_isRoleChange {w : World} (h : MayCommit setup request w commit)
    (hs : w.store.Sound)
    (hnot : ∀ caller, callerOf? setup request w = some caller → ¬w.store.HoldsSuperuser caller) :
    ¬commit.IsRoleChange := by
  rcases h with rfl | ⟨route, endpoint, caller, -, hcaller, hknown, hdoes⟩
  · exact False.elim
  · exact hdoes.not_isRoleChange hknown hs (hnot caller hcaller)

end Api

/-- All role grants are kept, and at most one is added: a user's, for a user that is new. -/
def Store.KeepsRoles (s s' : Store) : Prop :=
  (∀ key role, s.userRoles.get? key = some role → s'.userRoles.get? key = some role)
    ∧ (s'.userRoles = s.userRoles
      ∨ ∃ user role, s'.userRoles = s.userRoles ++ [(role.id, role)] ∧ role.role = .user
        ∧ role.userId = user.id ∧ s.users.get? user.id = none
        ∧ s'.users.get? user.id = some user)

theorem Commit.keepsRoles {s : Store} (hs : s.Sound) {commit : Commit}
    (h : commit.Admissible s) (hchange : ¬commit.IsRoleChange) :
    s.KeepsRoles (commit.apply s) := by
  rcases commit.userRoles_apply hs h hchange with
    ⟨-, hsame⟩ | ⟨user, role, -, howner, hname, hnew, hthere, hfree, happend⟩
  · exact ⟨fun key role hget => by rw [hsame, hget], Or.inl hsame⟩
  · refine ⟨fun key old hget => ?_, Or.inr ⟨user, role, happend, hname, howner, hnew, hthere⟩⟩
    rw [happend, ← Table.put_of_get?_none hfree, Table.get?_put_of_ne, hget]
    rintro rfl
    rw [hfree] at hget
    cases hget

/-- A request of somebody without a superuser's grant keeps all grants. -/
theorem World.Settled.exchange_keepsRoles {w : World} (h : w.Settled) {setup : Api.Setup}
    {request : Http.Request}
    (hnot : ∀ caller, Api.callerOf? setup request w = some caller →
      ¬w.store.HoldsSuperuser caller) :
    w.store.KeepsRoles (Session.exchange setup request w).2.store := by
  obtain ⟨commit, hmay, hafter⟩ := Api.exchange_commits h.at_store h.sound setup request
  rw [hafter.at_apply.store]
  exact commit.keepsRoles h.sound hafter.admissible (hmay.not_isRoleChange h.sound hnot)

/-! ## Runs of requests -/

/-- An event that is no call of a service. -/
def Event.IsOutside : Event → Prop
  | .call _ => False
  | _ => True

/-- Nobody is a superuser. -/
def Store.HasNoSuperuser (s : Store) : Prop := ∀ entry ∈ s.userRoles, entry.2.role ≠ .superuser

theorem Store.HasNoSuperuser.step {w : World} (h : w.store.HasNoSuperuser) (hw : w.Settled)
    {event : Event} (hevent : event.IsOutside) : (w.step event).store.HasNoSuperuser := by
  cases event with
  | call call => exact hevent.elim
  | meanwhile now slots supply requests => exact h
  | request setup request =>
      have hnot : ∀ caller, ¬w.store.HoldsSuperuser caller :=
        fun _ ⟨_, _, hget, _, hname⟩ => h _ (Table.mem_of_get? hget) hname
      intro entry hmem
      rcases (hw.exchange_keepsRoles fun caller _ => hnot caller).2 with
        hsame | ⟨user, role, happend, hname, -⟩
      · exact h entry (hsame ▸ hmem)
      · replace hmem : entry ∈ w.store.userRoles ++ [(role.id, role)] := happend ▸ hmem
        rcases List.mem_append.mp hmem with hold | hnew
        · exact h entry hold
        · rw [List.mem_singleton.mp hnew, hname]
          simp

theorem Store.HasNoSuperuser.run {w : World} (h : w.store.HasNoSuperuser) (hw : w.Settled)
    {events : List Event} (hevents : ∀ event ∈ events, event.IsOutside) :
    (w.run events).store.HasNoSuperuser := by
  induction events generalizing w with
  | nil => exact h
  | cons event rest ih =>
      exact ih (h.step hw (hevents event List.mem_cons_self)) (hw.step event)
        fun other hmem => hevents other (List.mem_cons_of_mem _ hmem)

/-- **No privilege escalation.** A request of somebody without a superuser's grant, whatever it is
and whatever it is answered, keeps all role grants and adds at most the one of a user that it made.
So however many requests come to a server that started with an empty store, there is no
superuser. -/
theorem no_escalation :
    (∀ w : World, w.Reachable → ∀ (setup : Api.Setup) (request : Http.Request),
      (∀ caller, Api.callerOf? setup request w = some caller → ¬w.store.HoldsSuperuser caller) →
      w.store.KeepsRoles (Session.exchange setup request w).2.store)
    ∧ ∀ (start : World) (events : List Event), start.IsInitial →
      (∀ event ∈ events, event.IsOutside) → (start.run events).store.HasNoSuperuser := by
  refine ⟨fun w hw setup request hnot => hw.settled.exchange_keepsRoles hnot, ?_⟩
  intro start events hstart hevents
  refine Store.HasNoSuperuser.run ?_ hstart.settled hevents
  rw [hstart.store]
  exact fun entry hmem => absurd hmem List.not_mem_nil

/-- The grant that the system gave to user 1 outlasts a request of nobody to take it away; and had
only the request come, there would be no superuser. -/
theorem no_escalation_of_anonymous :
    let setup : Api.Setup :=
      ⟨⟨"secret", "HS256"⟩, ⟨"https://google", "https://facebook", .usual, fun _ => .timedOut⟩,
        .usual, .usual, 3600, []⟩
    let request : Http.Request := ⟨"DELETE", "/roles/default/1".toList, [], [], []⟩
    let start : World := ⟨0, .empty, .empty 600 0, ⟨1, 0, true⟩, .start [], []⟩
    let w := start.step (.call (.createRole .system ⟨1, .superuser⟩))
    (Session.exchange setup request w).2.store.userRoles.get? 1 = some ⟨1, 1, .superuser, .utc 0⟩
      ∧ (start.run [.request setup request]).store.HasNoSuperuser := by
  intro setup request start w
  have hstart : start.IsInitial := ⟨rfl, rfl⟩
  refine ⟨(no_escalation.1 w ((World.Reachable.initial hstart).step _) setup request ?_).1 1 _ rfl,
    no_escalation.2 start _ hstart fun event hmem => ?_⟩
  · rintro caller hcaller ⟨key, role, -, hid, -⟩
    rw [Api.eq_anonymous_of_callerOf? rfl hcaller] at hid
    cases hid
  · rw [List.mem_singleton.mp hmem]
    trivial

end Accounts
