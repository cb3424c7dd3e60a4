import Accounts.Proofs.Reconciliation.Received

/-!
# Profiles that arrive

People arrive with profiles of two providers, in any order and again and again. What a profile comes
to is decided by what is stored of its e-mail address (`SignIn.Comes`), and it changes nothing else.
So what is stored of an address in the end is told by the profiles with that address alone, in the
order of their arrival (`Account.meet`), apart from the ids and times that are handed out on the
way.

A name may be a string that is no text. With one, no user can be made, so that such a profile is
refused as long as nobody has its address; once somebody has it, it is taken like any other one.
Those that are taken (`welcomed`) do what all profiles should, and the others do nothing.
-/

namespace Accounts

open Op SignIn

/-! ## Arrivals -/

/-- A profile that arrives, and what is around just then. -/
structure Arrival where
  profile : Profile
  address : Email.IsAddress profile.email
  now : Int
  slots : Slots
  supply : Supply

namespace Arrival

/-- The world in which a profile arrives. -/
def before (arrival : Arrival) (w : World) : World :=
  w.step (.meanwhile arrival.now arrival.slots arrival.supply w.requests)

def answer (arrival : Arrival) (w : World) : Except Failure String :=
  ((createOrLink arrival.profile).exec (arrival.before w)).1

def after (arrival : Arrival) (w : World) : World :=
  ((createOrLink arrival.profile).exec (arrival.before w)).2

/-- There is a slot for it. -/
def IsReady (arrival : Arrival) : Prop := arrival.slots.isFree = true

variable {w : World}

theorem reachable_after (arrival : Arrival) (hw : w.Reachable) : (arrival.after w).Reachable :=
  (hw.step _).step (.call (.createOrLink arrival.profile arrival.address))

/-- A profile that is welcome is brought together with the store, and answered with its address. -/
theorem IsReady.outcome {arrival : Arrival} (h : arrival.IsReady) (hw : w.Settled)
    (hwelcome : IsWelcome w.store arrival.profile) :
    arrival.answer w = .ok arrival.profile.email ∧ ∃ reconciled commit,
      Comes w.store arrival.now arrival.profile reconciled commit
        ∧ commit.Admissible w.store ∧ (arrival.after w).store = commit.apply w.store := by
  have hat : (arrival.before w).At arrival.now w.store := ⟨rfl, rfl, hw.agrees⟩
  unfold answer after
  rcases (createOrLink_comes hat hw.sound arrival.address).cases with
    ⟨failure, w', hexec, commit, ⟨-, hbusy | hrefused⟩, -⟩ |
    ⟨email, w', hexec, commit, ⟨rfl, reconciled, hcomes⟩, hafter⟩
  · exact nomatch hbusy.symm.trans h
  · exact absurd hwelcome hrefused
  · rw [hexec]
    exact ⟨rfl, reconciled, commit, hcomes, hafter.admissible, hafter.at_apply.store⟩

/-- One that is not welcome is told which of its names are no texts, and nothing changes. -/
theorem IsReady.refused {arrival : Arrival} (h : arrival.IsReady) (hw : w.Settled)
    (hrefused : ¬IsWelcome w.store arrival.profile) :
    arrival.answer w = .error (.service (.store (.broken arrival.profile.newUser.refusal)))
      ∧ arrival.after w = arrival.before w := by
  obtain ⟨hexists, hnamed⟩ := not_or.mp hrefused
  have hfree : w.store.emailExists arrival.profile.email = false := Bool.eq_false_iff.mpr hexists
  have hfind : (arrival.before w).store.findUserByEmail arrival.profile.email = none := by
    rw [← Option.isNone_iff_eq_none, ← Option.not_isSome, ← Store.emailExists_eq_isSome]
    exact congrArg (!·) hfree
  have hknown : ¬(arrival.before w).store.identityExists arrival.profile.email
      arrival.profile.provider = true := fun hidentity => by
    obtain ⟨identity, hthere⟩ := Table.has_eq_true.mp hidentity
    have hnone := Store.identity_none_of_emailExists hw.sound hfree arrival.profile.provider
    rw [show w.store.identities.get? _ = some identity from hthere] at hnone
    cases hnone
  have hends : (createOrLink arrival.profile).Ends (arrival.before w) (fun _ _ => False)
      (fun failure w' => failure = .service (.store (.broken arrival.profile.newUser.refusal))
        ∧ w' = arrival.before w) := by
    have hslot : (arrival.before w).slots.isFree = true := h
    unfold createOrLink reconcile createFrom
    rw [ends_bind, ends_withSlot, if_pos hslot, ends_bind, ends_read, if_neg hknown, ends_bind,
      ends_read]
    dsimp only
    rw [hfind, Users.checkedUser_eq_crash hnamed]
    exact ⟨rfl, rfl⟩
  unfold answer after
  rcases hends.cases with ⟨failure, w', hexec, rfl, rfl⟩ | ⟨_, _, -, hno⟩
  · rw [hexec]
    exact ⟨rfl, rfl⟩
  · exact hno.elim

/-- A profile whose identity is there is answered, and nothing changes. -/
theorem IsReady.known {arrival : Arrival} (hready : arrival.IsReady) {identity : Identity}
    (h : w.store.identities.get? (arrival.profile.email, arrival.profile.provider)
      = some identity) :
    arrival.answer w = .ok arrival.profile.email ∧ arrival.after w = arrival.before w := by
  have hexists : (arrival.before w).store.identityExists arrival.profile.email
      arrival.profile.provider = true := Table.has_eq_true.mpr ⟨identity, h⟩
  have hends : (createOrLink arrival.profile).Ends (arrival.before w)
      (fun email w' => email = arrival.profile.email ∧ w' = arrival.before w)
      (fun _ _ => False) := by
    have hslot : (arrival.before w).slots.isFree = true := hready
    unfold createOrLink reconcile
    rw [ends_bind, ends_withSlot, if_pos hslot, ends_bind, ends_read]
    rw [if_pos hexists]
    exact ⟨rfl, rfl⟩
  unfold answer after
  rcases hends.cases with ⟨_, _, -, hno⟩ | ⟨email, w', hexec, rfl, rfl⟩
  · exact hno.elim
  · rw [hexec]
    exact ⟨rfl, rfl⟩

end Arrival

/-! ## Those that are taken -/

/-- The profiles that are taken, of those which come one after the other: somebody has the address
by then, or all names are texts. -/
def welcomed (known : String → Bool) : List Profile → List Profile
  | [] => []
  | profile :: rest =>
    if known profile.email = true ∨ profile.newUser.IsNamed then
      profile :: welcomed (fun email => email == profile.email || known email) rest
    else welcomed known rest

theorem welcomed_sublist (known : String → Bool) (profiles : List Profile) :
    (welcomed known profiles).Sublist profiles := by
  induction profiles generalizing known with
  | nil => exact .slnil
  | cons profile rest ih =>
      rw [welcomed]
      split
      · exact (ih _).cons_cons profile
      · exact (ih known).cons profile

/-- Profiles that are welcome from the start are taken. -/
theorem welcomed_eq_self {known : String → Bool} {profiles : List Profile}
    (h : ∀ profile ∈ profiles, known profile.email = true ∨ profile.newUser.IsNamed) :
    welcomed known profiles = profiles := by
  induction profiles generalizing known with
  | nil => rfl
  | cons profile rest ih =>
      rw [welcomed, if_pos (h profile List.mem_cons_self), ih fun other hmem =>
        (h other (List.mem_cons_of_mem _ hmem)).imp_left fun hknown => by rw [hknown, Bool.or_true]]

theorem welcomed_congr {known known' : String → Bool} {profiles : List Profile}
    (h : ∀ profile ∈ profiles, known profile.email = known' profile.email) :
    welcomed known profiles = welcomed known' profiles := by
  induction profiles generalizing known known' with
  | nil => rfl
  | cons profile rest ih =>
      have hrest : ∀ other ∈ rest, known other.email = known' other.email :=
        fun other hmem => h other (List.mem_cons_of_mem _ hmem)
      have hlater : welcomed (fun email => email == profile.email || known email) rest
          = welcomed (fun email => email == profile.email || known' email) rest :=
        ih fun other hmem => congrArg (other.email == profile.email || ·) (hrest other hmem)
      rw [welcomed, welcomed, h profile List.mem_cons_self, ih hrest, hlater]

/-- Which profiles with an address are taken is told by the profiles with this address. -/
theorem filter_welcomed (known : String → Bool) (profiles : List Profile) (email : String) :
    (welcomed known profiles).filter (·.email == email)
      = welcomed known (profiles.filter (·.email == email)) := by
  induction profiles generalizing known with
  | nil => rfl
  | cons profile rest ih =>
      by_cases hemail : profile.email = email
      · have hkept : ∀ others : List Profile, (profile :: others).filter (·.email == email)
            = profile :: others.filter (·.email == email) := fun others => by
          rw [List.filter_cons, if_pos (beq_iff_eq.mpr hemail)]
        rw [hkept, welcomed, welcomed]
        split
        · rw [hkept, ih]
        · exact ih known
      · have hdropped : ∀ others : List Profile, (profile :: others).filter (·.email == email)
            = others.filter (·.email == email) := fun others => by
          rw [List.filter_cons, if_neg fun h => hemail (beq_iff_eq.mp h)]
        rw [hdropped, welcomed]
        split
        · rw [hdropped, ih]
          -- That somebody has another address is of no account here.
          refine welcomed_congr fun other hmem => ?_
          rw [beq_iff_eq.mp (List.mem_filter.mp hmem).2, beq_eq_false_iff_ne.mpr (Ne.symm hemail),
            Bool.false_or]
        · exact ih known

namespace World

/-- The answers of profiles that arrive one after the other. -/
def answers (w : World) : List Arrival → List (Except Failure String)
  | [] => []
  | arrival :: rest => arrival.answer w :: (arrival.after w).answers rest

/-- The world when all of them have arrived. -/
def receive (w : World) (arrivals : List Arrival) : World :=
  arrivals.foldl (fun w arrival => arrival.after w) w

variable {w : World}

theorem Reachable.receive (hw : w.Reachable) (arrivals : List Arrival) :
    (w.receive arrivals).Reachable := by
  induction arrivals generalizing w with
  | nil => exact hw
  | cons arrival rest ih => exact ih (arrival.reachable_after hw)

/-- What one profile does to the store, and who is known from then on. -/
theorem taken_cons (hw : w.Reachable) {arrival : Arrival} (hready : arrival.IsReady)
    (rest : List Profile) :
    (IsWelcome w.store arrival.profile ∧ Received w.store [arrival.profile] (arrival.after w).store
        ∧ welcomed w.store.emailExists (arrival.profile :: rest)
          = arrival.profile :: welcomed (arrival.after w).store.emailExists rest)
      ∨ ¬IsWelcome w.store arrival.profile ∧ (arrival.after w).store = w.store
        ∧ welcomed w.store.emailExists (arrival.profile :: rest)
          = welcomed (arrival.after w).store.emailExists rest := by
  by_cases hwelcome : IsWelcome w.store arrival.profile
  · obtain ⟨-, reconciled, commit, hcomes, hadmissible, hstore⟩ :=
      hready.outcome hw.settled hwelcome
    have hreceived := hcomes.received hw.settled.sound hadmissible
    rw [← hstore] at hreceived
    refine Or.inl ⟨hwelcome, hreceived, ?_⟩
    rw [welcomed, if_pos (show _ ∨ _ from hwelcome)]
    refine congrArg (_ :: ·) (welcomed_congr fun other _ => Bool.eq_iff_iff.mpr ?_)
    rw [hreceived.emailExists hw.settled.sound (arrival.reachable_after hw).settled.sound,
      List.map_singleton, List.mem_singleton, Bool.or_eq_true, beq_iff_eq, or_comm]
  · have hafter : (arrival.after w).store = w.store := by
      rw [(hready.refused hw.settled hwelcome).2]
      rfl
    refine Or.inr ⟨hwelcome, hafter, ?_⟩
    rw [welcomed, if_neg (show ¬(_ ∨ _) from hwelcome), hafter]

/-- All profiles are answered with their addresses exactly if all are taken. -/
theorem answers_eq_iff (hw : w.Reachable) {arrivals : List Arrival}
    (hready : ∀ arrival ∈ arrivals, arrival.IsReady) :
    w.answers arrivals = arrivals.map (fun arrival => .ok arrival.profile.email)
      ↔ welcomed w.store.emailExists (arrivals.map (·.profile)) = arrivals.map (·.profile) := by
  induction arrivals generalizing w with
  | nil => exact ⟨fun _ => rfl, fun _ => rfl⟩
  | cons arrival rest ih =>
      have hfirst := hready arrival List.mem_cons_self
      have hrest := ih (arrival.reachable_after hw) fun other hmem =>
        hready other (List.mem_cons_of_mem _ hmem)
      rw [answers, List.map_cons, List.map_cons]
      rcases taken_cons hw hfirst (rest.map (·.profile)) with
        ⟨hwelcome, -, htaken⟩ | ⟨hrefused, -, htaken⟩
      · rw [(hfirst.outcome hw.settled hwelcome).1, htaken, List.cons_eq_cons, List.cons_eq_cons,
          hrest]
        exact and_congr_left' ⟨fun _ => rfl, fun _ => rfl⟩
      · rw [(hfirst.refused hw.settled hrefused).1, htaken]
        constructor
        · intro h
          cases (List.cons_eq_cons.mp h).1
        · intro h
          have hlength := (welcomed_sublist (arrival.after w).store.emailExists
            (rest.map (·.profile))).length_le
          rw [h, List.length_cons] at hlength
          omega

/-- The profiles that are taken change the store as they say. -/
theorem received (hw : w.Reachable) {arrivals : List Arrival}
    (hready : ∀ arrival ∈ arrivals, arrival.IsReady) :
    Received w.store (welcomed w.store.emailExists (arrivals.map (·.profile)))
      (w.receive arrivals).store := by
  induction arrivals generalizing w with
  | nil => exact .nil w.store
  | cons arrival rest ih =>
      have hafter := arrival.reachable_after hw
      have hrest := ih hafter fun other hmem => hready other (List.mem_cons_of_mem _ hmem)
      rw [List.map_cons]
      rcases taken_cons hw (hready arrival List.mem_cons_self) (rest.map (·.profile)) with
        ⟨-, hone, htaken⟩ | ⟨-, hsame, htaken⟩
      · rw [htaken]
        exact hone.append hrest hw.settled.sound hafter.settled.sound
      · rw [htaken]
        exact hsame ▸ hrest

/-- What is stored of an address is told by the profiles with this address that are taken. -/
theorem account_receive (hw : w.Reachable) {arrivals : List Arrival}
    (hready : ∀ arrival ∈ arrivals, arrival.IsReady) (email : String) :
    (w.receive arrivals).store.account email =
      ((welcomed w.store.emailExists (arrivals.map (·.profile))).filter
        (·.email == email)).foldl Account.meet (w.store.account email) := by
  induction arrivals generalizing w with
  | nil => rfl
  | cons arrival rest ih =>
      have hfirst := hready arrival List.mem_cons_self
      have hrest := ih (arrival.reachable_after hw) fun other hmem =>
        hready other (List.mem_cons_of_mem _ hmem)
      refine hrest.trans ?_
      rw [List.map_cons]
      rcases taken_cons hw hfirst (rest.map (·.profile)) with
        ⟨hwelcome, -, htaken⟩ | ⟨-, hsame, htaken⟩
      · obtain ⟨-, reconciled, commit, hcomes, hadmissible, hstore⟩ :=
          hfirst.outcome hw.settled hwelcome
        rw [htaken, List.filter_cons]
        by_cases hemail : arrival.profile.email = email
        · subst hemail
          rw [if_pos (beq_self_eq_true _), List.foldl_cons, hstore,
            hcomes.account_self hw.settled.sound hadmissible]
        · rw [if_neg fun h => hemail (beq_iff_eq.mp h), hstore,
            hcomes.account_of_ne hw.settled.sound hadmissible hemail]
      · rw [htaken, hsame]

end World

/-- The same addresses come, in whatever order. -/
theorem newcomers_perm (s : Store) {profiles profiles' : List Profile}
    (h : ∀ email, profiles.filter (·.email == email) = profiles'.filter (·.email == email)) :
    (newcomers s profiles).Perm (newcomers s profiles') := by
  have hmem : ∀ email, email ∈ profiles.map (·.email) ↔ email ∈ profiles'.map (·.email) := by
    intro email
    have hiff : ∀ ps : List Profile, email ∈ ps.map (·.email)
        ↔ ps.filter (·.email == email) ≠ [] := by
      intro ps
      rw [ne_eq, List.filter_eq_nil_iff]
      simp only [List.mem_map, beq_iff_eq, not_forall, not_not, exists_prop]
    rw [hiff, hiff, h email]
  refine (List.perm_ext_iff_of_nodup (nodup_eraseDups _) (nodup_eraseDups _)).mpr fun email => ?_
  rw [List.mem_eraseDups, List.mem_eraseDups, List.mem_filter, List.mem_filter, hmem email]

/-- **Profiles of two providers are reconciled.** Profiles arrive in any order, each when there is a
slot. One whose address nobody has by then, and whose names are not all texts, is refused, which
changes nothing; the others are taken, and all are if each is welcome from the start. All are
answered with their addresses exactly if all are taken. In the end each address has exactly one
user, the one from before if there was one; the identities are those from before and one without a
password for each profile that was taken; and there is one role grant for each user who was made,
and no other one. A profile whose identity is there changes nothing, so neither does any of these
when it comes again. And what is stored of an address is told by the profiles with that address, so
that those with other addresses may as well have come earlier or later. -/
theorem reconciliation {w : World} (hw : w.Reachable) (arrivals : List Arrival)
    (hready : ∀ arrival ∈ arrivals, arrival.IsReady) :
    let s' := (w.receive arrivals).store
    let taken := welcomed w.store.emailExists (arrivals.map (·.profile))
    (w.answers arrivals = arrivals.map (fun arrival => .ok arrival.profile.email)
        ↔ taken = arrivals.map (·.profile))
      ∧ ((∀ arrival ∈ arrivals, IsWelcome w.store arrival.profile) →
        taken = arrivals.map (·.profile))
      ∧ (∀ arrival : Arrival, arrival.IsReady → ¬IsWelcome w.store arrival.profile →
        arrival.answer w = .error (.service (.store (.broken arrival.profile.newUser.refusal)))
          ∧ arrival.after w = arrival.before w)
      ∧ Received w.store taken s'
      ∧ (∀ id id' user user', s'.users.get? id = some user → s'.users.get? id' = some user' →
        user.email = user'.email → id = id')
      ∧ (∀ again : Arrival, again.IsReady →
        ((∃ identity, w.store.identities.get? (again.profile.email, again.profile.provider)
            = some identity)
          ∨ ∃ profile ∈ taken, again.profile.email = profile.email
            ∧ again.profile.provider = profile.provider) →
        again.answer (w.receive arrivals) = .ok again.profile.email
          ∧ again.after (w.receive arrivals) = again.before (w.receive arrivals))
      ∧ (∀ email, s'.account email =
        (taken.filter (·.email == email)).foldl Account.meet (w.store.account email))
      ∧ ∀ others : List Arrival, (∀ other ∈ others, other.IsReady) →
        (∀ email, (others.map (·.profile)).filter (·.email == email)
          = (arrivals.map (·.profile)).filter (·.email == email)) →
        (∀ email, (w.receive others).store.account email = s'.account email)
          ∧ (newcomers w.store (welcomed w.store.emailExists (others.map (·.profile)))).Perm
            (newcomers w.store taken) := by
  intro s' taken
  have hreceived : Received w.store taken s' := World.received hw hready
  have hs' := (hw.receive arrivals).settled.sound
  refine ⟨World.answers_eq_iff hw hready, fun hwelcome => ?_,
    fun arrival hfree => hfree.refused hw.settled, hreceived,
    fun id id' user user' huser huser' hemail => hs'.user_distinct huser huser' hemail,
    fun again hagain hknown => ?_, World.account_receive hw hready, fun others hothers hsame => ?_⟩
  · refine welcomed_eq_self fun profile hmem => ?_
    obtain ⟨arrival, harrival, rfl⟩ := List.mem_map.mp hmem
    exact hwelcome arrival harrival
  · rcases hknown with ⟨identity, hidentity⟩ | ⟨profile, hmem, hemail, hprovider⟩
    · exact hagain.known (hreceived.identities_kept _ identity hidentity)
    · obtain ⟨identity, hidentity⟩ := hreceived.identities_there _ hmem
      rw [← hemail, ← hprovider] at hidentity
      exact hagain.known hidentity
  · have htaken : ∀ email,
        (welcomed w.store.emailExists (others.map (·.profile))).filter (·.email == email)
          = taken.filter (·.email == email) := fun email => by
      rw [filter_welcomed, hsame email, ← filter_welcomed]
    refine ⟨fun email => ?_, newcomers_perm _ htaken⟩
    rw [World.account_receive hw hothers, World.account_receive hw hready, htaken]

/-- Two providers tell of one person: one user, one grant, and two identities. Somebody else comes
with half a character for a name, and is refused. -/
theorem reconciliation_of_link :
    let w : World := ⟨0, .empty, .empty 600 0, ⟨1, 0, true⟩, .start [], []⟩
    let google : Arrival := ⟨.google (.text "7") "ann@example.com" none none none none true,
      Email.isAddress_plain, 0, ⟨1, 0, true⟩, .start []⟩
    let facebook : Arrival := ⟨.facebook (.text "8") "ann@example.com" none none none none,
      Email.isAddress_plain, 1000000, ⟨1, 0, true⟩, .start []⟩
    let half : JsonString := .unpaired [0xD800] (by decide)
    let nameless : Arrival := ⟨.google (.text "9") "ann@example.com" none (some half) none none true,
      Email.isAddress_plain, 0, ⟨1, 0, true⟩, .start []⟩
    let s' := (w.receive [google, facebook]).store
    google.IsReady ∧ facebook.IsReady
      ∧ w.answers [google, facebook] = [.ok "ann@example.com", .ok "ann@example.com"]
      ∧ (∃ role : UserRole, s'.userRoles = [(role.id, role)] ∧ s'.users.keys = [role.userId])
      ∧ google.answer (w.receive [google, facebook]) = .ok "ann@example.com"
      ∧ (nameless.after w).store = w.store
      ∧ nameless.answer (w.receive [google, facebook]) = .ok "ann@example.com" := by
  intro w google facebook half nameless s'
  have hgoogle : google.IsReady := rfl
  have hfacebook : facebook.IsReady := rfl
  have hready : ∀ arrival ∈ [google, facebook], arrival.IsReady := by
    rintro arrival (_ | ⟨_, _ | ⟨_, ⟨⟩⟩⟩)
    · exact hgoogle
    · exact hfacebook
  have hwelcome : ∀ arrival ∈ [google, facebook], IsWelcome w.store arrival.profile := by
    rintro arrival (_ | ⟨_, _ | ⟨_, ⟨⟩⟩⟩)
    · exact Or.inr rfl
    · exact Or.inr rfl
  have hrefused : ¬IsWelcome w.store nameless.profile := by decide
  have hw : w.Reachable := World.Reachable.initial ⟨rfl, rfl⟩
  obtain ⟨hanswers, htaken, hnameless, hreceived, -, hagain, -⟩ :=
    reconciliation hw [google, facebook] hready
  rw [htaken hwelcome] at hanswers hreceived hagain
  obtain ⟨added, hroles, hkeys, -, howners⟩ := hreceived.grants
  refine ⟨hgoogle, hfacebook, hanswers.mpr rfl, ?_,
    (hagain google rfl (Or.inr ⟨google.profile, List.mem_cons_self, rfl, rfl⟩)).1,
    congrArg World.store (hnameless nameless rfl hrefused).2,
    (hagain nameless rfl (Or.inr ⟨google.profile, List.mem_cons_self, rfl, rfl⟩)).1⟩
  have hone : added.length = 1 := by
    have hlength := congrArg List.length howners
    rwa [List.length_map, List.length_map] at hlength
  obtain ⟨role, rfl⟩ := List.length_eq_one_iff.mp hone
  exact ⟨role, hroles, hkeys⟩

end Accounts
