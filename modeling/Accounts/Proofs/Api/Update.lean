import Accounts.Proofs.Payload.Changes

/-!
# Updates of a profile

A request for an update writes what was sent and nothing else. A body with members that are no
fields of a profile is refused, and each of them is told. An update that is answered has read each
field that was sent, and replaces the row of one user, in which these fields are as they were read,
and the time of the last change is the present one (`profile_update`). On its way to the row, what
was read is checked once more as a change to a user, which it passes as it is.
-/

namespace Accounts

open Op Http Payload

/-- What a member of the body makes of a field: without one the field stays, `null` clears it, and
any other value is read. -/
def Payload.Takes {α : Type} (members : Members) (name : String) (read : FieldReader α)
    (before after : Option α) : Prop :=
  match Json.find? members name with
  | none => after = before
  | some .null => after = none
  | some value => ∃ new, read value = .ok new ∧ after = some new

/-- A row as an update makes it at a time. -/
structure User.Updated (members : Members) (time : Int) (before after : User) : Prop where
  phone : Takes members "phone" anyString before.phone after.phone
  firstName : Takes members "first_name" givenName before.firstName after.firstName
  lastName : Takes members "last_name" givenName before.lastName after.lastName
  middleName : Takes members "middle_name" givenName before.middleName after.middleName
  gender : Takes members "gender" genderName before.gender after.gender
  birthdate : Takes members "birthdate" timestamp before.birthdate after.birthdate
  rest : after =
    { before with
      phone := after.phone
      firstName := after.firstName
      lastName := after.lastName
      middleName := after.middleName
      gender := after.gender
      birthdate := after.birthdate
      updatedAt := .utc time }

theorem Payload.takes_of_maybe {α : Type} {members : Members} {name : String}
    {read : FieldReader α} {change : Option (Option α)}
    (h : maybe members name (nullable read) = .ok change) (before : Option α) :
    Takes members name read before (change.getD before) := by
  unfold maybe at h
  unfold Takes
  split at h
  · rename_i value hfind
    rw [hfind]
    obtain ⟨new, hread, rfl⟩ := eq_ok_of_map (eq_ok_of_check h)
    cases value with
    | null =>
        cases hread
        rfl
    | _ =>
        obtain ⟨given, hgiven, rfl⟩ := eq_ok_of_map hread
        exact ⟨given, hgiven, rfl⟩
  · rename_i hfind
    rw [hfind]
    cases h
    rfl

/-- The row that the changes of a form make. -/
theorem UpdateProfile.Reads.updated {members : Members} {p : UpdateProfile} (h : p.Reads members)
    (time : Int) (before : User) :
    before.Updated members time (Store.applyUpdate (.utc time) p.toUpdateUser before) where
  phone := takes_of_maybe h.phone _
  firstName := takes_of_maybe h.firstName _
  lastName := takes_of_maybe h.lastName _
  middleName := takes_of_maybe h.middleName _
  gender := takes_of_maybe h.gender _
  birthdate := takes_of_maybe h.birthdate _
  rest := rfl

/-- The fields that a form of changes sets are those that were sent. -/
theorem UpdateProfile.changed_eq {members : Members} {p : UpdateProfile} (h : p.Reads members) :
    p.toUpdateUser.changes.map (·.1) =
      fields.filter fun name => (Json.find? members name).isSome := by
  simp only [UpdateUser.changes, UpdateUser.names_cons, List.filterMap_nil, List.map_nil, fields,
    List.filter_cons, List.filter_nil, ← isSome_of_maybe h.phone, ← isSome_of_maybe h.firstName,
    ← isSome_of_maybe h.lastName, ← isSome_of_maybe h.middleName, ← isSome_of_maybe h.gender,
    ← isSome_of_maybe h.birthdate]
  rfl

/-- A form of changes with other members is refused, with a complaint about each of them. -/
theorem UpdateProfile.complaints_of_unknown {members : Members} {names : List String}
    (hnames : names? members = some names) (hunknown : ∃ name ∈ names, name ∉ fields) :
    ∃ complaints, ofMembers members = .bad complaints
      ∧ ∀ name ∈ names, name ∉ fields → ⟨name, .extra⟩ ∈ complaints := by
  refine ⟨_, closed_of_unknown hnames hunknown _, fun name hmem hnot => ?_⟩
  exact List.mem_append_right _ (List.mem_map_of_mem (mem_undeclared_iff.mpr ⟨hmem, hnot⟩))

namespace Api

variable {setup : Setup} {request : Request} {w : World} {route : Route}

/-- An update whose payload is refused tells why, and nothing else happens. -/
theorem exchange_of_refused {caller : Caller} {fields : Table String (List String)}
    (hendpoint : endpoint? setup request = some (route, .updateUser))
    (hcaller : callerOf? setup request w = some caller)
    (hpayload : payloadOf setup.bodyDepth UpdateProfile.ofMembers request.body
      = .error (.service (.invalid fields))) :
    Session.exchange setup request w =
      (⟨400, .json (errorJson (.invalid fields)), Cors.allowedOrigin? setup.origins request⟩,
        w) := by
  have hfails : (Endpoint.updateUser.caller setup request >>= fun caller =>
      Endpoint.updateUser.run setup request route caller).exec w
      = (.error (.service (.invalid fields)), w) := by
    unfold Endpoint.run payload
    rw [exec_bind, caller_exec_of_callerOf? hendpoint hcaller]
    dsimp only
    rw [hpayload]
    rfl
  rw [exchange_of_failed hendpoint hfails]
  rfl

/-- An update that came to a value was read, and made. -/
theorem update_of_exec {caller : Caller} {value : Json} {w' : World}
    (h : (Endpoint.updateUser.run setup request route caller).exec w = (.ok value, w')) :
    ∃ members p user, Json.parseOctets setup.bodyDepth request.body = .ok (.obj members)
      ∧ UpdateProfile.ofMembers members = .ok p
      ∧ (Users.update caller (Route.idOf route) p).exec w = (.ok user, w')
      ∧ value = user.toJson := by
  unfold Endpoint.run payload at h
  cases hpayload : payloadOf setup.bodyDepth UpdateProfile.ofMembers request.body with
  | error failure =>
      rw [hpayload] at h
      cases h
  | ok p =>
      rw [hpayload] at h
      replace h : (Users.update caller (Route.idOf route) p >>= fun user =>
        pure user.toJson).exec w = (.ok value, w') := h
      rw [exec_bind] at h
      rcases hexec : (Users.update caller (Route.idOf route) p).exec w with
        ⟨failure | user, w₁⟩
      all_goals rw [hexec] at h
      · cases h
      · cases h
        obtain ⟨members, hparse, hcheck⟩ := parse_of_payloadOf hpayload
        exact ⟨members, p, user, hparse, hcheck, hexec, rfl⟩

end Api

/-- What a service makes of an update that it answers. -/
theorem Users.update_exec_eq_ok {w w' : World} (hw : w.Settled) {caller : Caller} {id : Int}
    {p : UpdateProfile} {user : User} (h : (Users.update caller id p).exec w = (.ok user, w')) :
    ∃ before, w.store.users.get? id = some before
      ∧ w.store.Permits caller .users .update (targetOf before)
      ∧ user = Store.applyUpdate (.utc w.now) p.toUpdateUser before
      ∧ w'.store = { w.store with users := w.store.users.put id user } := by
  rcases (Users.update_aims hw.at_store hw.sound caller id p).cases with
    ⟨failure, w₁, hexec, -⟩ |
    ⟨answer, w₁, hexec, commit, ⟨⟨before, hpermits, rfl, rfl⟩, hid⟩, hafter⟩
  all_goals rw [h] at hexec
  · cases hexec
  · cases hexec
    have hadmissible := hafter.admissible
    refine ⟨before, ?_, hpermits, rfl, ?_⟩
    · rw [← hid, hadmissible.continues.id]
      exact hadmissible.found
    · rw [hafter.at_apply.store, ← hid]
      rfl

open Api in
/-- **An update writes what was sent.** A body that holds an object with other members than the
fields of a profile is refused, each of them is told, and nothing happens; a body that holds no
document, or whose members have names that are no texts, is refused as a whole. An update that is
answered has changed one row: each field that was sent is as it was read, those that were not are as
they were, the time of the last change is the present one, and this is the row that is answered.
What was read passes as changes to a user, which set the fields that were sent and no others. -/
theorem profile_update {w : World} (hw : w.Reachable) (setup : Setup) (request : Request)
    (route : Route) (hendpoint : endpoint? setup request = some (route, .updateUser)) :
    let id := Route.idOf route
    let origin := Cors.allowedOrigin? setup.origins request
    let exchange := Session.exchange setup request w
    (∀ caller members names, callerOf? setup request w = some caller →
        Json.parseOctets setup.bodyDepth request.body = .ok (.obj members) →
        names? members = some names →
        (∃ name ∈ names, name ∉ UpdateProfile.fields) →
        ∃ fields, exchange = (⟨400, .json (errorJson (.invalid fields)), origin⟩, w)
          ∧ ∀ name ∈ names, name ∉ UpdateProfile.fields → ∃ messages,
            fields.get? name = some messages ∧ "Extra inputs are not permitted" ∈ messages)
      ∧ (∀ caller, callerOf? setup request w = some caller →
        (request.body ≠ [] → Json.parseOctets setup.bodyDepth request.body = .error .malformed →
          exchange = (⟨400, .json (errorJson (.field "body" "Failed to parse request body")),
            origin⟩, w))
        ∧ ∀ members, Json.parseOctets setup.bodyDepth request.body = .ok (.obj members) →
          names? members = none →
          exchange = (⟨400, .json (errorJson (.field "body" Complaint.unpairedText.text)), origin⟩,
            w))
      ∧ (exchange.1.status = 200 → ∃ members before after,
        Json.parseOctets setup.bodyDepth request.body = .ok (.obj members)
          ∧ (∃ names, names? members = some names ∧ ∀ name ∈ names, name ∈ UpdateProfile.fields)
          ∧ w.store.users.get? id = some before ∧ before.Updated members w.now after
          ∧ exchange.1 = ⟨200, .json after.toJson, origin⟩
          ∧ exchange.2.store = { w.store with users := w.store.users.put id after })
      ∧ ∀ members p, UpdateProfile.ofMembers members = .ok p → p.Reads members
        ∧ UpdateUser.ofMembers p.toUpdateUser.members = .ok p.toUpdateUser
        ∧ p.toUpdateUser.changes.map (·.1) =
          UpdateProfile.fields.filter fun name => (Json.find? members name).isSome := by
  intro id origin exchange
  refine ⟨fun caller members names hcaller hparse hnames hunknown => ?_, fun caller hcaller =>
    ⟨fun hempty hmalformed => ?_, fun members hparse hnames => ?_⟩, fun hstatus => ?_,
    fun members p hcheck => ?_⟩
  · obtain ⟨complaints, hcheck, htold⟩ :=
      UpdateProfile.complaints_of_unknown hnames hunknown
    refine ⟨grouped complaints, exchange_of_refused hendpoint hcaller ?_,
      fun name hmem hnot => mem_grouped (htold name hmem hnot)⟩
    rw [payloadOf_of_parse hparse, hcheck]
  · exact exchange_of_refused hendpoint hcaller (payloadOf_of_malformed hempty hmalformed)
  · refine exchange_of_refused hendpoint hcaller ?_
    rw [payloadOf_of_parse hparse, UpdateProfile.ofMembers, closed_of_unpaired hnames]
    rfl
  · obtain ⟨caller, value, w', hrun, -, hexchange⟩ := exec_of_status hendpoint hstatus
    obtain ⟨members, p, user, hparse, hcheck, hexec, rfl⟩ := update_of_exec hrun
    obtain ⟨before, hbefore, -, rfl, hstore⟩ := Users.update_exec_eq_ok hw.settled hexec
    have hreads := UpdateProfile.reads_of_ofMembers hcheck
    refine ⟨members, before, _, hparse, (closed_eq_ok hcheck).2, hbefore,
      hreads.updated w.now before, congrArg Prod.fst hexchange, ?_⟩
    exact (congrArg (·.2.store) hexchange).trans hstore
  · have hreads := UpdateProfile.reads_of_ofMembers hcheck
    exact ⟨hreads, UpdateUser.ofMembers_members (UpdateProfile.isRegular_of_ofMembers hcheck)
      (UpdateProfile.hasNames_of_ofMembers hcheck), UpdateProfile.changed_eq hreads⟩

open Api in
/-- A user tells a name and a phone number, some seconds after signing up. -/
theorem profile_update_of_name :
    let setup : Setup :=
      ⟨⟨"secret", "HS256"⟩, ⟨"https://google", "https://facebook", .usual, fun _ => .timedOut⟩,
        .usual, .usual, 3600, []⟩
    let signup : Request := ⟨"POST", "/users".toList, [], [], Text.Utf8.encode
      "\x7b\"email\":\"ann@example.com\",\"password\":\"password1\"\x7d".toList⟩
    let start : World := ⟨0, .empty, .empty 600 0, ⟨2, 0, true⟩, .start [], []⟩
    let w := (start.step (.request setup signup)).step
      (.meanwhile 5000000 ⟨2, 0, true⟩ (.start []) [])
    let token := "eyJhbGciOiJIUzI1NiIsInR5cCI6IkpXVCJ9.eyJlbWFpbCI6ImFubkBleGFtcGxlLmNvbSJ9."
      ++ "k61uHSYmRZlgGAAhnE3JNORNu2oB4GfEh2BSVt4ZpRw"
    let sent := [("first_name", "Ann"), ("phone", "555")]
    let request : Request := ⟨"PUT", "/users/1".toList, [], [("authorization", "Bearer " ++ token)],
      Text.Utf8.encode (Json.obj (Json.Parser.texts sent)).print⟩
    ∃ before, w.store.users.get? 1 = some before ∧
      let after : User :=
        { before with
          phone := some (.text "555")
          firstName := some (.text "Ann")
          updatedAt := .utc 5000000 }
      (Session.exchange setup request w).1 = ⟨200, .json after.toJson, none⟩
        ∧ (Session.exchange setup request w).2.store
          = { w.store with users := w.store.users.put 1 after } := by
  intro setup signup start w token sent request
  have hw : w.Reachable := ((World.Reachable.initial ⟨rfl, rfl⟩).step _).step _
  have hendpoint : endpoint? setup request = some (⟨.user, .id 1⟩, .updateUser) := by
    decide +kernel
  have hstatus : (Session.exchange setup request w).1.status = 200 := by decide +kernel
  have hbody : Json.parseOctets setup.bodyDepth request.body
      = .ok (.obj (Json.Parser.texts sent)) :=
    Json.parseOctets_print _ (by decide)
  obtain ⟨-, -, hanswered, -⟩ := profile_update hw setup request _ hendpoint
  obtain ⟨members, before, after, hparse, -, hbefore, hupdated, hanswer, hstore⟩ :=
    hanswered hstatus
  rw [hbody] at hparse
  cases hparse
  obtain ⟨_, hname, hfirst⟩ := hupdated.firstName
  obtain ⟨_, hnumber, hphone⟩ := hupdated.phone
  cases hname
  cases hnumber
  have hafter := hupdated.rest
  rw [hfirst, hphone,
    show after.lastName = before.lastName from hupdated.lastName,
    show after.middleName = before.middleName from hupdated.middleName,
    show after.gender = before.gender from hupdated.gender,
    show after.birthdate = before.birthdate from hupdated.birthdate] at hafter
  subst hafter
  exact ⟨before, hbefore, hanswer, hstore⟩

open Api in
/-- An object with a number that is too long is refused as a whole, and so is one with a name that
is no text. The user who sends it, and may make changes, is told of no member. -/
theorem extras_untold_of_long_number :
    let setup : Setup :=
      ⟨⟨"secret", "HS256"⟩, ⟨"https://google", "https://facebook", .usual, fun _ => .timedOut⟩,
        .usual, .usual, 3600, []⟩
    let signup : Request := ⟨"POST", "/users".toList, [], [], Text.Utf8.encode
      "\x7b\"email\":\"ann@example.com\",\"password\":\"password1\"\x7d".toList⟩
    let start : World := ⟨0, .empty, .empty 600 0, ⟨2, 0, true⟩, .start [], []⟩
    let w := start.step (.request setup signup)
    let token := "eyJhbGciOiJIUzI1NiIsInR5cCI6IkpXVCJ9.eyJlbWFpbCI6ImFubkBleGFtcGxlLmNvbSJ9."
      ++ "k61uHSYmRZlgGAAhnE3JNORNu2oB4GfEh2BSVt4ZpRw"
    let caller : Caller := ⟨some 1, some (.text "ann@example.com"), .user 1⟩
    let request : Request :=
      ⟨"PUT", "/users/1".toList, [], [("authorization", "Bearer " ++ token)], []⟩
    let long := Text.Utf8.encode (Json.record [("x", .int (10 ^ 4300))]).print
    let unpaired := Text.Utf8.encode "\x7b\"x\":null,\"\\ud800\":null\x7d".toList
    let refused (message : String) : Response × World :=
      (⟨400, .json (errorJson (.field "body" message)), none⟩, w)
    w.Reachable ∧ w.store.Permits caller .users .update [.user 1]
      ∧ callerOf? setup { request with body := long } w = some caller
      ∧ callerOf? setup { request with body := unpaired } w = some caller
      ∧ Session.exchange setup { request with body := long } w
        = refused "Failed to parse request body"
      ∧ Session.exchange setup { request with body := unpaired } w
        = refused Complaint.unpairedText.text := by
  have hlong : payloadOf .usual UpdateProfile.ofMembers
      (Text.Utf8.encode (Json.record [("x", .int (10 ^ 4300))]).print)
        = .error (.service (.field "body" BodyProblem.malformed.text)) := by
    decide +kernel
  have hunpaired : payloadOf .usual UpdateProfile.ofMembers
      (Text.Utf8.encode "\x7b\"x\":null,\"\\ud800\":null\x7d".toList)
        = .error (.service (.field "body" Complaint.unpairedText.text)) := by
    decide +kernel
  intro setup signup start w token caller request long unpaired refused
  have hw : w.Reachable := (World.Reachable.initial ⟨rfl, rfl⟩).step _
  have hpermits : w.store.Permits caller .users .update [.user 1] := by
    unfold Store.Permits
    decide +kernel
  have hcaller : callerOf? setup request w = some caller := by decide +kernel
  have hendpoint : endpoint? setup request = some (⟨.user, .id 1⟩, .updateUser) := by
    decide +kernel
  refine ⟨hw, hpermits, (callerOf?_body _).trans hcaller, (callerOf?_body _).trans hcaller, ?_, ?_⟩
  · exact exchange_of_refused ((endpoint?_body _).trans hendpoint)
      ((callerOf?_body _).trans hcaller) hlong
  · exact exchange_of_refused ((endpoint?_body _).trans hendpoint)
      ((callerOf?_body _).trans hcaller) hunpaired

end Accounts
