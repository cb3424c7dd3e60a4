import Accounts.Proofs.Rows
import Accounts.Proofs.TwoRuns

/-!
# What a new account starts with

Whoever is made a user gets the role that everybody has, behind whatever was granted to the id
before. Ids are given out in turn, and a role may be granted to any id, so there can be grants that
wait for somebody to get the id; but each of them was made by a call that was answered and named
that very id (`World.granted_before`). No other write leaves a grant for an id that nobody has.
-/

namespace Accounts

open Op

/-- A call that was answered has granted a role to an id. -/
def Served.GrantsTo (served : Served) (userId : Int) : Prop :=
  (∃ payload, served.call.grant? = some payload ∧ payload.userId = userId)
    ∧ ∃ answer, served.result = .ok answer

namespace World

/-- Who has a grant is a user, or the grant was made by a call that named the id. -/
theorem granted_before {start : World} (hstart : start.IsInitial) (events : List Event)
    {key : Int} {role : UserRole}
    (hrole : (start.run events).store.userRoles.get? key = some role) :
    (∃ user, (start.run events).store.users.get? role.userId = some user)
      ∨ ∃ served ∈ start.history events, served.GrantsTo role.userId := by
  revert key role
  refine run_served (P := fun s history => ∀ {key role}, s.userRoles.get? key = some role →
    (∃ user, s.users.get? role.userId = some user)
      ∨ ∃ served ∈ history, served.GrantsTo role.userId) hstart ?_ ?_ events
  · intro key role h
    cases h
  · intro w history call hw hold key role hrole
    obtain ⟨commit, hrecords, hanswer, hadmissible, hstore⟩ := hw.exec_records call
    rw [hstore] at hrole ⊢
    rcases Commit.role_apply hw.sound hadmissible hrole with hbefore | hgranted | ⟨user, hnew, hown⟩
    · rcases hold hbefore with ⟨user, huser⟩ | ⟨served, hmem, hgrants⟩
      · obtain ⟨later, hlater, -⟩ := Commit.continues_apply hw.sound hadmissible huser
        exact Or.inl ⟨later, hlater⟩
      · exact Or.inr ⟨served, List.mem_append_left _ hmem, hgrants⟩
    · exact Or.inr ⟨call.servedIn w, List.mem_append_right _ (List.mem_singleton_self _),
        ⟨_, hrecords.grants role hgranted, rfl⟩, hanswer (by rw [hgranted]; simp)⟩
    · obtain ⟨-, hthere, -⟩ := Commit.newUser?_spec hw.sound hadmissible hnew
      exact Or.inl ⟨user, hown ▸ hthere⟩

variable {w : World}

/-- Whoever is made a user by an event gets the role that everybody has, behind all other grants. -/
theorem Settled.rolesOf_new (h : w.Settled) (event : Event) {id : Int} {user : User}
    (hfree : w.store.users.get? id = none)
    (hmade : (w.step event).store.users.get? id = some user) :
    ∃ role : UserRole, role.userId = id ∧ role.role = Roles.defaultRole
      ∧ (w.step event).store.rolesOf id = w.store.rolesOf id ++ [role] := by
  rw [step_store] at hmade ⊢
  cases hcall : w.callOf? event with
  | none =>
      rw [hcall, hfree] at hmade
      cases hmade
  | some call =>
      rw [hcall] at hmade
      obtain ⟨commit, -, hadmissible, hstore⟩ := h.exec_store call
      dsimp only at hmade ⊢
      rw [hstore] at hmade ⊢
      have hid : user.id = id := ((Commit.sound_apply h.sound hadmissible).user_id hmade).1
      have hnew := Commit.newUser?_eq_some hadmissible hfree hmade
      have hquiet : ¬commit.IsRoleChange := by
        cases commit <;> first | exact fun h => h | cases hnew
      rcases Commit.userRoles_apply h.sound hadmissible hquiet with
        ⟨hnone, -⟩ | ⟨other, role, hother, hown, hrole, -, -, -, hroles⟩
      · rw [hnone] at hnew
        cases hnew
      · rw [hnew] at hother
        obtain rfl := Option.some.inj hother
        refine ⟨role, hown.trans hid, hrole, ?_⟩
        rw [Store.rolesOf, hroles, Table.values, List.map_append, List.filter_append]
        simp [Store.rolesOf, Table.values, hown, hid]

/-- Whoever is answered to have signed up was made by that. -/
theorem Settled.signUp_new (h : w.Settled) {event : Event} {payload : NewIdentity}
    {address : Email.IsAddress payload.email} {user : User}
    (hcall : w.callOf? event = some (.createUser payload address))
    (hexec : ((Users.create payload).exec w).1 = .ok user) :
    w.store.users.get? user.id = none ∧ (w.step event).store.users.get? user.id = some user := by
  obtain ⟨commit, hhas, hadmissible, hstore⟩ := h.exec_store (.createUser payload address)
  have hsigns : Users.SignsUp payload user commit := by
    unfold Served.Has Call.servedIn at hhas
    dsimp only at hhas
    rw [show ((Call.createUser payload address).op.exec w).1 = .ok user from hexec] at hhas
    exact hhas
  obtain ⟨identity, role, rfl, -⟩ := hsigns
  obtain ⟨hfree, hthere, -⟩ := Commit.newUser?_spec h.sound hadmissible rfl
  rw [step_store, hcall]
  dsimp only
  rw [hstore]
  exact ⟨hfree, hthere⟩

end World

/-- **A new account starts with the role that everybody has, and what was granted to its id
before.** Whoever signed up and was answered is a new user. Whoever is made a user by an event, be
it by signing up or by signing in with another provider, gets one more grant than the id had, of the
role that everybody has; every other one was made by a call that was answered and named the id
before anybody had it. Where there was no such call, the one grant is all there is, and whenever a
slot is free, looking up the roles answers this role alone. -/
theorem new_account_roles {start : World} (hstart : start.IsInitial) (events : List Event)
    (event : Event) :
    let w := start.run events
    let w' := w.step event
    (∀ payload address user, w.callOf? event = some (.createUser payload address) →
        ((Users.create payload).exec w).1 = .ok user →
        w.store.users.get? user.id = none ∧ w'.store.users.get? user.id = some user)
      ∧ ∀ id user, w.store.users.get? id = none → w'.store.users.get? id = some user →
        ∃ role : UserRole, role.userId = id ∧ role.role = .user
          ∧ w'.store.rolesOf id = w.store.rolesOf id ++ [role]
          ∧ (w.store.rolesOf id ≠ [] → ∃ served ∈ start.history events, served.GrantsTo id)
          ∧ ((∀ served ∈ start.history events, ¬served.GrantsTo id) →
            w'.store.rolesOf id = [role]
              ∧ ∀ now slots supply requests, slots.isFree = true →
                ((rolesOf id).exec (w'.step (.meanwhile now slots supply requests))).1
                  = .ok [.user]) := by
  intro w w'
  have hw : w.Settled := hstart.settled.run events
  refine ⟨fun payload address user hcall hexec => hw.signUp_new hcall hexec,
    fun id user hfree hmade => ?_⟩
  obtain ⟨role, hown, hrole, hroles⟩ := hw.rolesOf_new event hfree hmade
  have hbefore : w.store.rolesOf id ≠ [] →
      ∃ served ∈ start.history events, served.GrantsTo id := by
    intro hsome
    obtain ⟨old, hold⟩ := List.exists_mem_of_ne_nil _ hsome
    obtain ⟨hvalue, howner⟩ := List.mem_filter.mp hold
    obtain ⟨key, hkey⟩ := (Table.mem_values_iff hw.sound.roles_unique).mp hvalue
    have howner : old.userId = id := beq_iff_eq.mp howner
    rcases World.granted_before hstart events hkey with ⟨owner, hthere⟩ | hgranted
    · rw [howner] at hthere
      exact absurd (hfree.symm.trans hthere) (by simp)
    · exact howner ▸ hgranted
  refine ⟨role, hown, hrole, hroles, hbefore, fun hnever => ?_⟩
  have hnone : w.store.rolesOf id = [] := by
    by_contra hsome
    obtain ⟨served, hmem, hgrants⟩ := hbefore hsome
    exact hnever served hmem hgrants
  rw [hnone, List.nil_append] at hroles
  refine ⟨hroles, fun now slots supply requests hslot => ?_⟩
  obtain ⟨cache, hexec, -⟩ := rolesOf_exec
    ((hw.step event).step (.meanwhile now slots supply requests)).at_store (Or.inl hslot)
  rw [hexec]
  have hheld :
      (w'.step (.meanwhile now slots supply requests)).store.held (.user id) = [.user] := by
    change (w'.store.rolesOf id).map (·.role) = [.user]
    rw [hroles, List.map_singleton, hrole]
    rfl
  rw [hheld]
  rfl

/-- Somebody is made by signing in with another provider. -/
theorem new_account_roles_of_link :
    let profile := Profile.google (.text "7") "ann@example.com" none none none none true
    let start : World := ⟨0, .empty, .empty 600 0, ⟨1, 0, true⟩, .start [], []⟩
    let w := start.step (.call (.createOrLink profile Email.isAddress_plain))
    ∃ role : UserRole, role.role = .user ∧ w.store.rolesOf 1 = [role]
      ∧ ((rolesOf 1).exec (w.step (.meanwhile 1000000 ⟨1, 0, true⟩ (.start []) []))).1
        = .ok [.user] := by
  intro profile start w
  obtain ⟨user, huser⟩ : ∃ user, w.store.users.get? 1 = some user :=
    Option.isSome_iff_exists.mp (by decide +kernel)
  have hstart : start.IsInitial := ⟨rfl, rfl⟩
  obtain ⟨role, -, hrole, -, -, hnever⟩ := (new_account_roles hstart []
    (.call (.createOrLink profile Email.isAddress_plain))).2 1 user rfl huser
  obtain ⟨hroles, hlookup⟩ := hnever fun _ h => nomatch h
  exact ⟨role, hrole, hroles, hlookup 1000000 ⟨1, 0, true⟩ (.start []) [] rfl⟩

/-- A role that was granted to an id before anybody had it is there when somebody gets the id, and
it is looked up with the other one. -/
theorem new_account_granted_before :
    let profile := Profile.google (.text "7") "ann@example.com" none none none none true
    let start : World := ⟨0, .empty, .empty 600 0, ⟨1, 0, true⟩, .start [], []⟩
    let w := start.run [.call (.createRole .system ⟨1, .superuser⟩)]
    let w' := w.step (.call (.createOrLink profile Email.isAddress_plain))
    w.Reachable ∧ w.store.users.get? 1 = none ∧ (w'.store.users.get? 1).isSome
      ∧ (w'.store.rolesOf 1).map (·.role) = [.superuser, .user]
      ∧ ((rolesOf 1).exec w').1.toOption = some [.superuser, .user] := by
  intro profile start w w'
  exact ⟨⟨start, _, ⟨rfl, rfl⟩, rfl⟩, by decide +kernel, by decide +kernel, by decide +kernel,
    by decide +kernel⟩

end Accounts
