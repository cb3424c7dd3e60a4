import Accounts.Proofs.TwoRuns

/-!
# Rights that cannot be found out

Where the roles of a caller are not cached, and the last slot is taken by the very operation that
asks for them, the caller counts as one without roles. An operation that checks rights while it
holds a slot then fails, whatever rights the caller has, and changes nothing.
-/

namespace Accounts

open Op

namespace Op

variable {α β : Type} {w : World}

/-- The operation fails, and the store stays as it was. -/
def Fails (op : Op α) (w : World) : Prop :=
  op.Ends w (fun _ _ => False) fun _ w' => w'.store = w.store

theorem Fails.bind {op : Op α} (h : op.Fails w) (next : α → Op β) : (op >>= next).Fails w :=
  Ends.next h (fun _ _ h => h.elim) fun _ _ h => h

theorem fails_throw (failure : Failure) : (throw failure : Op α).Fails w := rfl

theorem fails_withSlot {op : Op α}
    (h : op.Fails { w with slots := { w.slots with inUse := w.slots.inUse + 1 } }) :
    (withSlot op).Fails w := by
  unfold Fails
  rw [ends_withSlot]
  split
  · exact h
  · rfl

theorem fails_now {next : Timestamp → Op α} (h : ∀ time, (next time).Fails w) :
    (now >>= next).Fails w := h _

theorem fails_found {what : Missing} {user? : Option User} {next : User → Op α}
    (h : ∀ user, (next user).Fails w) : (Users.found what user? >>= next).Fails w := by
  cases user? with
  | none => exact (fails_throw _).bind next
  | some user => exact h user

end Op

/-- The roles of a user are not cached, and there is no slot to read them through. -/
structure World.Unread (w : World) (userId : Int) : Prop where
  busy : w.slots.isFree = false
  missing : ¬w.Holds userId

namespace Op

variable {w : World} {caller : Caller} {userId : Int}

/-- Whoever's roles cannot be found out is refused. -/
theorem fails_require (h : w.Unread userId) (hcaller : caller.authority = .user userId)
    (resource : Resource) (action : Action) (targets : List Target) :
    (require caller resource action targets).Fails w := by
  have hroles : (rolesOf userId).Ends w (fun roles w' => roles = [] ∧ w'.store = w.store)
      (fun _ _ => False) := by
    have hexec : (rolesOf userId).exec w = rolesOf userId w := rfl
    unfold Ends
    rw [hexec, rolesOf]
    rcases w.cache.begin_cases w.now userId with ⟨entry, hget, hlive, -⟩ | ⟨entries, -, hbegin⟩
    · exact absurd ⟨entry, hget, hlive⟩ h.missing
    · rw [hbegin]
      dsimp only
      rw [loadRoles, h.busy]
      exact ⟨rfl, rfl⟩
  unfold require can Fails
  rw [hcaller, bind_assoc]
  refine hroles.next ?_ fun _ _ h => h.elim
  rintro _ w' ⟨rfl, hstore⟩
  exact hstore

/-- A first check, with nothing cached, leaves no roles behind where the cache keeps none. -/
theorem ends_require_cold (hempty : w.cache.entries = []) (hlife : w.cache.lifetime ≤ 0)
    (hcaller : caller.authority = .user userId) (resource : Resource) (action : Action)
    (targets : List Target) :
    (require caller resource action targets).Ends w
      (fun _ w' => w'.store = w.store ∧ w'.slots = w.slots ∧ ¬w'.Holds userId)
      (fun _ w' => w'.store = w.store) := by
  have hroles : (rolesOf userId).Ends w
      (fun _ w' => w'.store = w.store ∧ w'.slots = w.slots ∧ ¬w'.Holds userId)
      (fun _ _ => False) := by
    have hexec : (rolesOf userId).exec w = rolesOf userId w := rfl
    unfold Ends
    rw [hexec, rolesOf]
    rcases w.cache.begin_cases w.now userId with ⟨entry, hget, -, -⟩ | ⟨entries, hsub, hbegin⟩
    · rw [hempty] at hget
      cases hget
    · rw [hbegin]
      refine ⟨rfl, rfl, ?_⟩
      rintro ⟨entry, hget, hlive⟩
      rcases RoleCache.mem_finish_entries (Table.mem_of_get? hget) with hold | ⟨roles, -, -, heq⟩
      · have hnone := hsub _ hold
        rw [hempty] at hnone
        cases hnone
      · rw [(Prod.mk.inj heq).2] at hlive
        have hexpiry : w.now < w.now + w.cache.lifetime := hlive
        omega
  unfold require can
  rw [hcaller, bind_assoc]
  refine hroles.next ?_ fun _ _ h => h.elim
  rintro roles w' hw'
  rw [pure_bind]
  split
  · exact hw'.1
  · exact hw'

end Op

section Short

variable {w : World} {caller : Caller} {userId : Int}

/-- Inside the last slot, with nothing cached, no roles can be found out. -/
theorem unread_inside (hmissing : ¬w.Holds userId) (hlast : ¬w.HasSlots 2) :
    World.Unread { w with slots := { w.slots with inUse := w.slots.inUse + 1 } } userId := by
  refine ⟨?_, hmissing⟩
  rw [← Bool.not_eq_true, World.isFree_iff]
  rintro ⟨hpatient, hroom⟩
  refine hlast ⟨hpatient, ?_⟩
  change w.slots.inUse + 1 + 1 ≤ w.slots.size at hroom
  omega

/-- What checks rights inside the last slot, with nothing cached, fails. -/
theorem Users.change_fails (hempty : w.cache.entries = []) (hlife : w.cache.lifetime ≤ 0)
    (hcaller : caller.authority = .user userId) (hlast : ¬w.HasSlots 2) (action : Action) (id : Int)
    (f : Store → Except ServiceError (User × Store)) : (change caller action id f).Fails w := by
  unfold change
  refine (ends_require_cold hempty hlife hcaller _ _ _).next ?_ fun _ _ h => h
  rintro _ w' ⟨hstore, hslots, hmissing⟩
  have hlast' : ¬w'.HasSlots 2 := by
    unfold World.HasSlots
    rw [hslots]
    exact hlast
  have hunread := unread_inside hmissing hlast'
  have hfails : (Op.withSlot do
      let user ← found (.user id) (← read (·.findUser id))
      require caller .users action (targetOf user)
      write f).Fails w' :=
    fails_withSlot (fails_found fun _ => (fails_require hunread hcaller _ _ _).bind _)
  exact hfails.mono (fun _ _ h => h) fun _ _ h => h.trans hstore

theorem Roles.delete_fails (hmissing : ¬w.Holds userId)
    (hcaller : caller.authority = .user userId) (hlast : ¬w.HasSlots 2) (id : Int) :
    (Roles.delete caller id).Fails w := by
  have hunread := unread_inside hmissing hlast
  refine Fails.bind (fails_withSlot (ends_bind.mpr (ends_read.mpr ?_))) _
  dsimp only
  cases w.store.findRole id with
  | none => exact fails_throw _
  | some role => exact (fails_require hunread hcaller _ _ _).bind _

theorem Credentials.changePassword_fails (hmissing : ¬w.Holds userId)
    (hcaller : caller.authority = .user userId) (hlast : ¬w.HasSlots 2)
    (payload : ChangeIdentityPassword) : (changePassword caller payload).Fails w := by
  have hunread := unread_inside hmissing hlast
  unfold changePassword
  cases caller.userId with
  | none => exact fails_throw _
  | some id =>
      exact fails_withSlot (fails_found fun _ => (fails_require hunread hcaller _ _ _).bind _)

theorem Credentials.request_fails (hmissing : ¬w.Holds userId)
    (hcaller : caller.authority = .user userId) (hlast : ¬w.HasSlots 2) (payload : ResetRequest)
    (provider : Provider) (tokenType : TokenType) (refusal : String) :
    (request caller payload provider tokenType refusal).Fails w :=
  fails_withSlot
    (Fails.bind ((fails_require (unread_inside hmissing hlast) hcaller _ _ _).bind _) _)

end Short

end Accounts
