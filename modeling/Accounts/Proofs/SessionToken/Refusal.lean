import Accounts.Proofs.SessionToken.Signed

/-!
# How reading a token fails

Nearly all that can be wrong with a token is refused, with the reason. What is not foreseen is that
the header or a signed payload is nested too deep to be read, and that a signed payload which passes
all checks has an address that is no string: these end in a fault (`Derails`), and a codec that
signs comes to no other (`Codec.decode_eq_crash_iff`).
-/

namespace Accounts.SessionToken

variable {codec : Codec} {depth : Json.Depth} {token : List Char}

def IsRefusal (failure : Failure) : Prop := ∃ problem, failure = refused problem

theorem not_isRefusal_crash (crash : Crash) : ¬IsRefusal (.crash crash) := fun ⟨_, h⟩ => by cases h

/-- A check that fails with a refusal only. -/
def Refuses {α : Type} (check : Except Failure α) : Prop := FailsOnly IsRefusal check

/-- A check that fails with a refusal, or comes to a fault. -/
def RefusesOrCrashes {α : Type} (check : Except Failure α) : Prop :=
  FailsOnly (fun failure => IsRefusal failure ∨ ∃ crash, failure = .crash crash) check

theorem Refuses.orCrashes {α : Type} {check : Except Failure α} (h : Refuses check) :
    RefusesOrCrashes check := h.mono fun _ => Or.inl

theorem refuses_refused {α : Type} (problem : TokenProblem) :
    Refuses (.error (refused problem) : Except Failure α) := failsOnly_error ⟨problem, rfl⟩

/-- Goes on, or is refused. -/
theorem refuses_guard {p : Prop} [Decidable p] {problem : TokenProblem} :
    Refuses (if p then .error (refused problem) else .ok () : Except Failure Unit) := by
  split
  · exact refuses_refused problem
  · exact failsOnly_ok ()

/-- Goes on with the checks behind, or is refused. -/
theorem refuses_guard_bind {α : Type} {p : Prop} [Decidable p] {problem : TokenProblem}
    {f : Unit → Except Failure α} (hf : Refuses (f ())) :
    Refuses (if p then .error (refused problem) >>= f else f ()) := by
  split
  · exact refuses_refused problem
  · exact hf

/-! ## The checks one by one -/

theorem unsegment_refuses (problem : TokenProblem) (text : List Char) :
    Refuses (unsegment problem text) := by
  unfold unsegment
  split
  · exact failsOnly_ok _
  · exact refuses_refused problem

theorem object_eq_crash_iff {malformed notObject : TokenProblem} {octets : List UInt8}
    {crash : Crash} :
    object depth malformed notObject octets = .error (.crash crash)
      ↔ crash = .tooDeep ∧ Json.parseOctets depth octets = .error .tooDeep := by
  unfold object
  split
  all_goals
    rename_i heq
    rw [heq]
    simp [refused, eq_comm]

theorem object_refusesOrCrashes (malformed notObject : TokenProblem) (octets : List UInt8) :
    RefusesOrCrashes (object depth malformed notObject octets) := by
  unfold object
  split
  · exact failsOnly_ok _
  · exact failsOnly_error (Or.inl ⟨_, rfl⟩)
  · exact failsOnly_error (Or.inl ⟨_, rfl⟩)
  · exact failsOnly_error (Or.inr ⟨_, rfl⟩)

theorem checkKeyId_refuses (header : Payload.Members) : Refuses (checkKeyId header) := by
  unfold checkKeyId
  split
  · exact failsOnly_ok ()
  · exact failsOnly_ok ()
  · exact refuses_refused _

theorem checkCritical_refuses (header : Payload.Members) (names : List Json) :
    Refuses (checkCritical header names) := by
  induction names using checkCritical.induct header with
  | case1 => exact failsOnly_ok ()
  | case2 name rest h =>
      rw [checkCritical, if_pos h]
      exact refuses_refused _
  | case3 name rest h hmissing =>
      rw [checkCritical, if_neg h, if_pos hmissing]
      exact refuses_refused _
  | case4 name rest h hmissing ih =>
      rw [checkCritical, if_neg h, if_neg hmissing]
      exact ih
  | case5 codes rest => exact refuses_refused _
  | case6 value rest htext hunpaired =>
      rw [checkCritical]
      exact refuses_refused _
      all_goals assumption

theorem checkExtensions_refuses (header : Payload.Members) : Refuses (checkExtensions header) := by
  unfold checkExtensions
  split
  · exact failsOnly_ok ()
  · exact checkCritical_refuses header _
  · exact refuses_refused _

theorem checkHeader_refuses (header : Payload.Members) : Refuses (checkHeader header) := by
  rw [checkHeader_eq]
  exact (checkKeyId_refuses header).bind fun _ => (checkExtensions_refuses header).bind fun _ =>
    refuses_guard

theorem checkTime_refuses (claims : Payload.Members) (name : String)
    (notNumber wrong : TokenProblem) (isWrong : Int → Bool) :
    Refuses (checkTime claims name notNumber wrong isWrong) := by
  unfold checkTime
  split
  · exact failsOnly_ok ()
  · split
    · exact refuses_refused _
    · exact refuses_guard

theorem checkText_refuses (claims : Payload.Members) (name : String) (problem : TokenProblem) :
    Refuses (checkText claims name problem) := by
  unfold checkText
  split
  · exact failsOnly_ok ()
  · exact failsOnly_ok ()
  · exact refuses_refused _

theorem checkClaims_refuses (now : Int) (claims : Payload.Members) :
    Refuses (checkClaims now claims) := by
  have hbehind : Refuses (do
      checkTime claims "iat" .issuedAt .notYetIssued fun n => decide (now < n)
      checkTime claims "nbf" .notBefore .notYetValid fun n => decide (now < n)
      checkTime claims "exp" .expiration .expired fun n => decide (n ≤ now)
      if ((Json.find? claims "aud").map Json.truthy).getD false then .error (refused .audience)
      checkText claims "sub" .subject
      checkText claims "jti" .tokenId) :=
    (checkTime_refuses _ _ _ _ _).bind fun _ => (checkTime_refuses _ _ _ _ _).bind fun _ =>
      (checkTime_refuses _ _ _ _ _).bind fun _ => refuses_guard_bind
        ((checkText_refuses _ _ _).bind fun _ => checkText_refuses _ _ _)
  unfold checkClaims
  cases Json.find? claims "email" with
  | none => exact refuses_refused _
  | some value =>
      cases value with
      | null => exact refuses_refused _
      | _ => exact hbehind

/-! ## Faults -/

/-- The header of a token is nested too deep. -/
def IsBottomless (depth : Json.Depth) (token : List Char) : Prop :=
  ∃ layout : Layout token, ∃ octets, Base64.Spells layout.head octets
    ∧ Json.parseOctets depth octets = .error .tooDeep

/-- What comes behind the header of a token is refused at most. -/
theorem behindHeader_refuses (layout : Layout token) (header : Payload.Members) : Refuses (do
    if isDetached header && !layout.body.isEmpty then .error (refused .detachedPayload)
    let payload ← unsegment .payloadPadding layout.body
    let signature ← unsegment .signaturePadding layout.tail
    .ok (⟨layout.message, header, payload, signature⟩ : Parts)) :=
  refuses_guard_bind <| (unsegment_refuses _ _).bind fun _ => (unsegment_refuses _ _).bind fun _ =>
    failsOnly_ok _

theorem parts_eq_crash_iff {crash : Crash} :
    parts depth token = .error (.crash crash) ↔ crash = .tooDeep ∧ IsBottomless depth token := by
  constructor
  · intro h
    by_cases hlayout : Nonempty (Layout token)
    case neg =>
      rw [parts_of_not_layout hlayout] at h
      cases h
    obtain ⟨layout⟩ := hlayout
    rw [layout.parts_eq] at h
    obtain ⟨octets, hoctets, hheader⟩ :=
      ((unsegment_refuses _ _).bind_eq_error_iff (not_isRefusal_crash crash)).mp h
    rcases bind_eq_error.mp hheader with hdeep | ⟨header, -, hbehind⟩
    · obtain ⟨hcrash, hparse⟩ := object_eq_crash_iff.mp hdeep
      exact ⟨hcrash, layout, octets, unsegment_eq_ok_iff.mp hoctets, hparse⟩
    · exact absurd (behindHeader_refuses layout header _ hbehind) (not_isRefusal_crash crash)
  · rintro ⟨rfl, layout, octets, hspells, hparse⟩
    rw [layout.parts_eq]
    refine bind_eq_error.mpr (Or.inr ⟨octets, unsegment_eq_ok_iff.mpr hspells, ?_⟩)
    exact bind_eq_error.mpr (Or.inl (object_eq_crash_iff.mpr ⟨rfl, hparse⟩))

theorem parts_refusesOrCrashes (token : List Char) : RefusesOrCrashes (parts depth token) := by
  by_cases hlayout : Nonempty (Layout token)
  · obtain ⟨layout⟩ := hlayout
    rw [layout.parts_eq]
    exact (unsegment_refuses _ _).orCrashes.bind fun octets =>
      (object_refusesOrCrashes _ _ octets).bind fun header =>
        (behindHeader_refuses layout header).orCrashes
  · rw [parts_of_not_layout hlayout]
    exact (refuses_refused _).orCrashes

/-- What a payload does that no check catches: it is nested too deep, or it passes all checks with
an address that is no string. -/
inductive PayloadDerails (depth : Json.Depth) (now : Int) (payload : List UInt8) : Crash → Prop
  | tooDeep : Json.parseOctets depth payload = .error .tooDeep →
    PayloadDerails depth now payload .tooDeep
  | address (claims : Payload.Members) (value : Json) (complaint : Payload.Complaint) :
    Json.parseOctets depth payload = .ok (.obj claims) → checkClaims now claims = .ok () →
    Json.find? claims "email" = some value → Payload.anyString value = .error complaint →
    PayloadDerails depth now payload (.payload [⟨"email", complaint⟩])

theorem address_eq_crash_iff {now : Int} {payload : List UInt8} {crash : Crash} :
    address depth now payload = .error (.crash crash) ↔ PayloadDerails depth now payload crash := by
  unfold address
  constructor
  · intro h
    rcases bind_eq_error.mp h with hdeep | ⟨claims, hclaims, hrest⟩
    · obtain ⟨rfl, hparse⟩ := object_eq_crash_iff.mp hdeep
      exact .tooDeep hparse
    · obtain ⟨_, hchecked, hemail⟩ :=
        ((checkClaims_refuses now claims).bind_eq_error_iff (not_isRefusal_crash crash)).mp hrest
      obtain ⟨value, hvalue⟩ := email_of_checkClaims hchecked
      rw [Payload.required_of_find? hvalue] at hemail
      cases htext : Payload.anyString value with
      | ok text =>
          rw [htext] at hemail
          cases hemail
      | error complaint =>
          rw [htext] at hemail
          obtain rfl := Failure.crash.inj (Except.error.inj hemail)
          exact .address claims value complaint (object_eq_ok_iff.mp hclaims) hchecked hvalue htext
  · rintro (hparse | ⟨claims, value, complaint, hparse, hchecked, hvalue, htext⟩)
    · exact bind_eq_error.mpr (Or.inl (object_eq_crash_iff.mpr ⟨rfl, hparse⟩))
    · refine bind_eq_error.mpr (Or.inr ⟨claims, object_eq_ok_iff.mpr hparse, ?_⟩)
      refine bind_eq_error.mpr (Or.inr ⟨(), hchecked, ?_⟩)
      rw [Payload.required_of_find? hvalue, htext]
      rfl

/-- What a token does to a codec that no check catches. The header is read before the signature is
looked at, so that everybody can write one that is nested too deep; a payload comes to it only if
it is signed. -/
inductive Derails (codec : Codec) (depth : Json.Depth) (now : Int) (token : List Char) :
    Crash → Prop
  | header : IsBottomless depth token → Derails codec depth now token .tooDeep
  | payload (signed : Signed codec depth token) (crash : Crash) :
    PayloadDerails depth now signed.payload crash → Derails codec depth now token crash

/-! ## Codecs that take their secret -/

section Taken

variable {algorithm : Algorithm} (hname : Algorithm.ofName? codec.algorithm = some algorithm)
  (htakes : algorithm.takes codec.secret = true)

include hname htakes

/-- A codec that takes its secret refuses wrong signatures, and nothing else can happen. -/
theorem checkSignature_refuses (found : Parts) : Refuses (checkSignature codec found) := by
  unfold checkSignature
  simp only [hname, htakes, Bool.not_true, Bool.false_eq_true, if_false]
  cases Json.find? found.header "alg" with
  | none => exact refuses_refused _
  | some named => exact refuses_guard_bind refuses_guard

theorem Codec.signedPayload_eq_crash_iff {crash : Crash} :
    codec.signedPayload depth token = .error (.crash crash)
      ↔ crash = .tooDeep ∧ IsBottomless depth token := by
  -- Behind the parts there are refusals only, so that a fault is one of taking the token apart.
  have hbehind : ∀ found : Parts, Refuses (do
      checkHeader found.header
      checkSignature codec found
      .ok found.payload) := fun found =>
    (checkHeader_refuses found.header).bind fun _ =>
      (checkSignature_refuses hname htakes found).bind fun _ => failsOnly_ok _
  rw [← parts_eq_crash_iff]
  unfold Codec.signedPayload
  constructor
  · intro h
    rcases bind_eq_error.mp h with hparts | ⟨found, -, hrest⟩
    · exact hparts
    · exact absurd (hbehind found _ hrest) (not_isRefusal_crash crash)
  · exact fun h => bind_eq_error.mpr (Or.inl h)

/-- A codec that takes its secret comes to a fault over these tokens and no others. -/
theorem Codec.decode_eq_crash_iff {now : Int} {crash : Crash} :
    codec.decode depth now token = .error (.crash crash) ↔ Derails codec depth now token crash := by
  rw [Codec.decode_eq, bind_eq_error, Codec.signedPayload_eq_crash_iff hname htakes]
  simp only [Codec.signedPayload_eq_ok_iff, address_eq_crash_iff]
  constructor
  · rintro (⟨rfl, hdeep⟩ | ⟨_, ⟨signed, rfl⟩, hderails⟩)
    · exact .header hdeep
    · exact .payload signed crash hderails
  · rintro (hdeep | ⟨signed, _, hderails⟩)
    · exact Or.inl ⟨rfl, hdeep⟩
    · exact Or.inr ⟨_, ⟨signed, rfl⟩, hderails⟩

/-- No error of the service but a refusal comes out. -/
theorem Codec.decode_refusesOrCrashes (depth : Json.Depth) (now : Int) (token : List Char) :
    RefusesOrCrashes (codec.decode depth now token) := by
  refine (parts_refusesOrCrashes token).bind fun found => ?_
  refine (checkHeader_refuses _).orCrashes.bind fun _ => ?_
  refine (checkSignature_refuses hname htakes found).orCrashes.bind fun _ => ?_
  refine (object_refusesOrCrashes _ _ _).bind fun claims => ?_
  refine (checkClaims_refuses now claims).orCrashes.bind fun _ => ?_
  split
  · exact failsOnly_ok _
  · exact failsOnly_error (Or.inr ⟨_, rfl⟩)

/-- A token is read, or refused, or it derails. -/
theorem Codec.decode_ends (depth : Json.Depth) (now : Int) (token : List Char) :
    (∃ email, codec.decode depth now token = .ok email)
      ∨ (∃ problem, codec.decode depth now token = .error (refused problem))
      ∨ ∃ crash, codec.decode depth now token = .error (.crash crash)
        ∧ Derails codec depth now token crash := by
  cases hdecode : codec.decode depth now token with
  | ok email => exact Or.inl ⟨email, rfl⟩
  | error failure =>
      rcases Codec.decode_refusesOrCrashes hname htakes depth now token failure hdecode with
        ⟨problem, rfl⟩ | ⟨crash, rfl⟩
      · exact Or.inr (Or.inl ⟨problem, rfl⟩)
      · exact Or.inr (Or.inr ⟨crash, rfl, (Codec.decode_eq_crash_iff hname htakes).mp hdecode⟩)

end Taken

end Accounts.SessionToken
