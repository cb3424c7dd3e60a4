import Accounts.Proofs.Reconciliation.Account

/-!
# What profiles make of a store

Bringing profiles together with a store leaves its users and identities there and adds what the
profiles call for (`Received`). One profile does so (`SignIn.Comes.received`), and what several have
done one after the other is put together (`Received.append`).
-/

namespace Accounts

open Op SignIn

/-- The addresses of profiles that nobody has yet, in the order in which they come first. -/
def newcomers (s : Store) (profiles : List Profile) : List String :=
  ((profiles.map (·.email)).filter fun email => !s.emailExists email).eraseDups

/-- What becomes of a store when profiles are brought together with it. Users and identities stay,
every profile has a user and an identity with that user as its owner in the end, and there is one
role grant for each user who was made. -/
structure Received (s : Store) (profiles : List Profile) (s' : Store) : Prop where
  users_kept : ∀ id before, s.users.get? id = some before →
    ∃ after, s'.users.get? id = some after ∧ after.email = before.email
  users_there : ∀ profile ∈ profiles, ∃ id user, s'.users.get? id = some user
    ∧ user.email = profile.email
  identities_kept : ∀ key identity, s.identities.get? key = some identity →
    s'.identities.get? key = some identity
  identities_there : ∀ profile ∈ profiles, ∃ identity,
    s'.identities.get? (profile.email, profile.provider) = some identity
  identities_new : ∀ key identity, s'.identities.get? key = some identity →
    s.identities.get? key = none → ∃ profile ∈ profiles, key = (profile.email, profile.provider)
      ∧ identity.password = none ∧ s'.ownerOf identity.userId = some profile.email
  grants : ∃ added : List UserRole,
    s'.userRoles = s.userRoles ++ added.map (fun role => (role.id, role))
      ∧ s'.users.keys = s.users.keys ++ added.map (·.userId)
      ∧ (∀ role ∈ added, role.role = .user)
      ∧ added.map (fun role => s'.ownerOf role.userId) = (newcomers s profiles).map some
  tokens : s'.resetTokens = s.resetTokens

namespace Received

variable {s s' s'' : Store} {profiles profiles' : List Profile}

theorem ownerOf_eq_some {s : Store} {id : Int} {email : String} :
    s.ownerOf id = some email ↔ ∃ user, s.users.get? id = some user ∧ user.email = email :=
  Option.map_eq_some_iff

theorem ownerOf_kept (h : Received s profiles s') {id : Int} {email : String}
    (howner : s.ownerOf id = some email) : s'.ownerOf id = some email := by
  obtain ⟨before, hbefore, rfl⟩ := ownerOf_eq_some.mp howner
  exact ownerOf_eq_some.mpr (h.users_kept id before hbefore)

theorem nil (s : Store) : Received s [] s where
  users_kept id before h := ⟨before, h, rfl⟩
  users_there _ h := absurd h List.not_mem_nil
  identities_kept _ _ h := h
  identities_there _ h := absurd h List.not_mem_nil
  identities_new key identity h hnone := by
    rw [hnone] at h
    cases h
  grants := ⟨[], (List.append_nil _).symm, (List.append_nil _).symm,
    fun _ h => absurd h List.not_mem_nil, rfl⟩
  tokens := rfl

theorem emailExists_iff {s : Store} (hs : s.Sound) {email : String} :
    s.emailExists email = true ↔ ∃ id user, s.users.get? id = some user ∧ user.email = email := by
  rw [Store.emailExists_eq_isSome, Option.isSome_iff_exists]
  constructor
  · rintro ⟨user, hfind⟩
    exact ⟨user.id, user, Store.findUserByEmail_eq_some hs hfind⟩
  · rintro ⟨id, user, huser, rfl⟩
    exact Store.findUserByEmail_isSome hs huser

/-- The addresses that somebody has in the end are those that somebody had, and those of the
profiles. -/
theorem emailExists (h : Received s profiles s') (hs : s.Sound) (hs' : s'.Sound) (email : String) :
    s'.emailExists email = true ↔
      s.emailExists email = true ∨ email ∈ profiles.map (·.email) := by
  rw [emailExists_iff hs', emailExists_iff hs]
  constructor
  · rintro ⟨id, user, huser, rfl⟩
    obtain ⟨added, -, hkeys, -, howners⟩ := h.grants
    have hmem : id ∈ s'.users.keys := Table.mem_keys_of_mem (Table.mem_of_get? huser)
    rw [hkeys, List.mem_append] at hmem
    rcases hmem with hold | hnew
    · obtain ⟨⟨_, before⟩, hentry, rfl⟩ := List.mem_map.mp hold
      have hbefore := hs.users_unique.get?_iff.mpr hentry
      obtain ⟨after, hafter, hemail⟩ := h.users_kept _ before hbefore
      rw [hafter] at huser
      obtain rfl := Option.some.inj huser
      exact Or.inl ⟨_, before, hbefore, hemail.symm⟩
    · obtain ⟨role, hrole, rfl⟩ := List.mem_map.mp hnew
      have howner : s'.ownerOf role.userId = some user.email :=
        ownerOf_eq_some.mpr ⟨user, huser, rfl⟩
      have hmem : some user.email ∈ (newcomers s profiles).map some := by
        rw [← howners, ← howner]
        exact List.mem_map.mpr ⟨role, hrole, rfl⟩
      obtain ⟨email, hemail, heq⟩ := List.mem_map.mp hmem
      rw [Option.some.inj heq] at hemail
      exact Or.inr (List.mem_filter.mp (List.mem_eraseDups.mp hemail)).1
  · rintro (⟨id, before, hbefore, rfl⟩ | hmem)
    · obtain ⟨after, hafter, hemail⟩ := h.users_kept id before hbefore
      exact ⟨id, after, hafter, hemail⟩
    · obtain ⟨profile, hprofile, rfl⟩ := List.mem_map.mp hmem
      exact h.users_there profile hprofile

/-- Of further profiles, those are newcomers whose addresses neither somebody had nor an earlier
profile brought. -/
theorem newcomers_append (h : Received s profiles s') (hs : s.Sound) (hs' : s'.Sound) :
    newcomers s (profiles ++ profiles') = newcomers s profiles ++ newcomers s' profiles' := by
  unfold newcomers
  rw [List.map_append, List.filter_append, List.eraseDups_append]
  refine congrArg (_ ++ ·) (congrArg List.eraseDups ?_)
  rw [List.removeAll, List.filter_filter]
  refine List.filter_congr fun email _ => ?_
  have hexists := h.emailExists hs hs' email
  rw [Bool.eq_iff_iff]
  simp only [Bool.and_eq_true, Bool.not_eq_true', List.elem_eq_mem, decide_eq_false_iff_not,
    List.mem_filter, not_and, Bool.not_eq_false]
  rw [← Bool.not_eq_true, ← Bool.not_eq_true, hexists, not_or]
  constructor
  · rintro ⟨hnot, hfree⟩
    exact ⟨hfree, fun hmem => hfree (hnot hmem)⟩
  · rintro ⟨hfree, hnot⟩
    exact ⟨fun hmem => absurd hmem hnot, hfree⟩

theorem append (h : Received s profiles s') (h' : Received s' profiles' s'') (hs : s.Sound)
    (hs' : s'.Sound) : Received s (profiles ++ profiles') s'' where
  users_kept id before hbefore := by
    obtain ⟨between, hbetween, hemail⟩ := h.users_kept id before hbefore
    obtain ⟨after, hafter, hemail'⟩ := h'.users_kept id between hbetween
    exact ⟨after, hafter, hemail'.trans hemail⟩
  users_there profile hprofile := by
    rcases List.mem_append.mp hprofile with hfirst | hsecond
    · obtain ⟨id, user, huser, hemail⟩ := h.users_there profile hfirst
      obtain ⟨after, hafter, hemail'⟩ := h'.users_kept id user huser
      exact ⟨id, after, hafter, hemail'.trans hemail⟩
    · exact h'.users_there profile hsecond
  identities_kept key identity hidentity :=
    h'.identities_kept key identity (h.identities_kept key identity hidentity)
  identities_there profile hprofile := by
    rcases List.mem_append.mp hprofile with hfirst | hsecond
    · obtain ⟨identity, hidentity⟩ := h.identities_there profile hfirst
      exact ⟨identity, h'.identities_kept _ identity hidentity⟩
    · exact h'.identities_there profile hsecond
  identities_new key identity hidentity hnone := by
    cases hbetween : s'.identities.get? key with
    | none =>
        obtain ⟨profile, hprofile, hnew⟩ := h'.identities_new key identity hidentity hbetween
        exact ⟨profile, List.mem_append_right _ hprofile, hnew⟩
    | some found =>
        have hsame := h'.identities_kept key found hbetween
        rw [hidentity] at hsame
        obtain rfl := Option.some.inj hsame
        obtain ⟨profile, hprofile, hkey, hpassword, howner⟩ :=
          h.identities_new key identity hbetween hnone
        exact ⟨profile, List.mem_append_left _ hprofile, hkey, hpassword, h'.ownerOf_kept howner⟩
  grants := by
    obtain ⟨added, hroles, hkeys, huser, howners⟩ := h.grants
    obtain ⟨added', hroles', hkeys', huser', howners'⟩ := h'.grants
    refine ⟨added ++ added', ?_, ?_, fun role hrole => ?_, ?_⟩
    · rw [hroles', hroles, List.map_append, List.append_assoc]
    · rw [hkeys', hkeys, List.map_append, List.append_assoc]
    · exact (List.mem_append.mp hrole).elim (huser role) (huser' role)
    · have hkept : added.map (fun role => s''.ownerOf role.userId)
          = added.map fun role => s'.ownerOf role.userId := by
        refine List.map_congr_left fun role hrole => ?_
        have hmem : s'.ownerOf role.userId ∈ (newcomers s profiles).map some := by
          rw [← howners]
          exact List.mem_map.mpr ⟨role, hrole, rfl⟩
        obtain ⟨email, -, howner⟩ := List.mem_map.mp hmem
        rw [← howner, h'.ownerOf_kept howner.symm]
      rw [List.map_append, hkept, howners, howners', newcomers_append h hs hs', List.map_append]
  tokens := h'.tokens.trans h.tokens

end Received

namespace SignIn

variable {s : Store} {time : Int} {profile : Profile} {reconciled : Reconciled} {commit : Commit}

theorem newcomers_of_emailExists (h : s.emailExists profile.email = true) :
    newcomers s [profile] = [] := by
  rw [newcomers, List.map_cons, List.map_nil, List.filter_cons, h]
  rfl

theorem newcomers_of_free (h : s.emailExists profile.email = false) :
    newcomers s [profile] = [profile.email] := by
  rw [newcomers, List.map_cons, List.map_nil, List.filter_cons, h]
  rfl

/-- A user gets a fresh identity. -/
theorem received_of_fresh {s' : Store}
    (hfresh : s.identities.get? (profile.email, profile.provider) = none)
    (hkept : ∀ id before, s.users.get? id = some before →
      ∃ after, s'.users.get? id = some after ∧ after.email = before.email)
    (id : Int) {user : User} (huser : s'.users.get? id = some user)
    (hemail : user.email = profile.email) {sagaId : JsonString}
    (hidentities : s'.identities
      = s.identities.put (profile.email, profile.provider) (identityOf profile id sagaId))
    (htokens : s'.resetTokens = s.resetTokens) (added : List UserRole)
    (hroles : s'.userRoles = s.userRoles ++ added.map (fun role => (role.id, role)))
    (hkeys : s'.users.keys = s.users.keys ++ added.map (·.userId))
    (hadded : ∀ role ∈ added, role.role = .user)
    (howners : added.map (fun role => s'.ownerOf role.userId)
      = (newcomers s [profile]).map some) : Received s [profile] s' where
  users_kept := hkept
  users_there _ hmem := by
    rw [List.mem_singleton.mp hmem]
    exact ⟨id, user, huser, hemail⟩
  identities_kept key old hold := by
    rw [hidentities]
    refine (Table.get?_put_of_ne _ _ fun e => ?_).trans hold
    rw [← e, hfresh] at hold
    cases hold
  identities_there _ hmem := by
    rw [List.mem_singleton.mp hmem, hidentities]
    exact ⟨_, Table.get?_put_self ..⟩
  identities_new key identity hidentity hnone := by
    rw [hidentities] at hidentity
    rcases Table.get?_put_cases hidentity with ⟨rfl, rfl⟩ | ⟨-, hold⟩
    · exact ⟨profile, List.mem_singleton_self _, rfl, rfl,
        Received.ownerOf_eq_some.mpr ⟨user, huser, hemail⟩⟩
    · rw [hnone] at hold
      cases hold
  grants := ⟨added, hroles, hkeys, hadded, howners⟩
  tokens := htokens

/-- One profile. -/
theorem Comes.received (hs : s.Sound) (h : Comes s time profile reconciled commit)
    (hadmissible : commit.Admissible s) : Received s [profile] (commit.apply s) := by
  have hkept : ∀ id before, s.users.get? id = some before →
      ∃ after, (commit.apply s).users.get? id = some after ∧ after.email = before.email := by
    intro id before hbefore
    obtain ⟨after, hafter, hcontinues⟩ := Commit.continues_apply hs hadmissible hbefore
    exact ⟨after, hafter, hcontinues.email⟩
  cases h with
  | @returning identity known =>
      obtain ⟨user, huser, hemail⟩ := hs.user_of_identity known
      have hexists : s.emailExists profile.email = true :=
        (Received.emailExists_iff hs).mpr ⟨_, user, huser, hemail⟩
      exact { Received.nil s with
        users_there := fun _ hmem => List.mem_singleton.mp hmem ▸ ⟨_, user, huser, hemail⟩
        identities_there := fun _ hmem => List.mem_singleton.mp hmem ▸ ⟨identity, known⟩
        identities_new := fun key other hother hnone => by
          rw [show s.identities.get? key = some other from hother] at hnone
          cases hnone
        grants := ⟨[], (List.append_nil _).symm, (List.append_nil _).symm,
          fun _ hmem => absurd hmem List.not_mem_nil,
          by rw [newcomers_of_emailExists hexists]; rfl⟩ }
  | @linked before sagaId fresh found =>
      obtain ⟨hbefore, hemail⟩ := Store.findUserByEmail_eq_some hs found
      have hexists : s.emailExists profile.email = true :=
        (Received.emailExists_iff hs).mpr ⟨_, before, hbefore, hemail⟩
      have hkeys : (s.users.put before.id (filledBy profile time before)).keys = s.users.keys := by
        rw [Table.keys_put, if_pos (Table.mem_keys_of_mem (Table.mem_of_get? hbefore))]
      exact received_of_fresh fresh hkept before.id (Table.get?_put_self ..) hemail rfl rfl []
        (List.append_nil _).symm (hkeys.trans (List.append_nil _).symm)
        (fun _ hmem => absurd hmem List.not_mem_nil)
        (by rw [newcomers_of_emailExists hexists]; rfl)
  | created sagaId fresh unfound =>
      have hfree : s.emailExists profile.email = false := by
        rw [Store.emailExists_eq_isSome, unfound]
        rfl
      have hafter : (s.users.put s.nextUserId (userOf profile s.nextUserId time sagaId)).get?
          s.nextUserId = some (userOf profile s.nextUserId time sagaId) := Table.get?_put_self ..
      have hnew : s.nextUserId ∉ s.users.keys := by
        intro hmem
        obtain ⟨⟨id, user⟩, hentry, hid⟩ := List.mem_map.mp hmem
        have hbound := (hs.user_id (hs.users_unique.get?_iff.mpr hentry)).2.2
        dsimp only at hid
        omega
      have hkeys : (s.users.put s.nextUserId (userOf profile s.nextUserId time sagaId)).keys
          = s.users.keys ++ [s.nextUserId] := by
        rw [Table.keys_put, if_neg hnew]
      have hfreeRole : s.userRoles.get? s.nextRoleId = none := by
        refine Option.eq_none_iff_forall_ne_some.mpr fun found hfound => ?_
        have hbound := (hs.role_id hfound).2.2
        omega
      refine received_of_fresh fresh hkept s.nextUserId hafter rfl rfl rfl
        [⟨s.nextRoleId, s.nextUserId, .user, .utc time⟩]
        (Table.put_of_get?_none hfreeRole _) hkeys (fun role hmem => ?_) ?_
      · rw [List.mem_singleton.mp hmem]
      · rw [newcomers_of_free hfree]
        exact congrArg (· :: []) (Received.ownerOf_eq_some.mpr ⟨_, hafter, rfl⟩)

end SignIn

end Accounts
