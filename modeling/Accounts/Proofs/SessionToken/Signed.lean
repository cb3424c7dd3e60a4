import Accounts.Proofs.Base64.Reading
import Accounts.Proofs.Checks
import Accounts.Proofs.Payload
import Accounts.Proofs.SessionToken

/-!
# Accepted tokens are signed

A token text falls into three segments in at most one way (`Layout`), and every segment stands for
one octet sequence at most. So whatever a reader of tokens finds in a text, it finds the same: each
check of the row is turned into what it says about the segments, and a text that passes all of them
is signed (`Signed`) and its payload names the address (`Codec.decode_eq_ok_iff`). Everything that a
forger could try falls out of this: the header, the payload and the signature of an accepted text
are the only ones it has.
-/

namespace Accounts.SessionToken

/-! ## Segments -/

/-- The segments of a token, with the first and the last period of it between them. -/
structure Layout (token : List Char) where
  head : List Char
  body : List Char
  tail : List Char
  token_eq : token = head ++ '.' :: body ++ '.' :: tail
  head_free : '.' ∉ head
  tail_free : '.' ∉ tail

variable {token : List Char}

/-- What the signature is about. -/
def Layout.message (layout : Layout token) : List Char := layout.head ++ '.' :: layout.body

theorem Layout.splitLast?_eq (layout : Layout token) :
    splitLast? '.' token = some (layout.message, layout.tail) :=
  splitLast?_eq_some_iff.mpr ⟨layout.token_eq, layout.tail_free⟩

theorem Layout.splitFirst?_eq (layout : Layout token) :
    splitFirst? '.' layout.message = some (layout.head, layout.body) :=
  splitFirst?_eq_some_iff.mpr ⟨rfl, layout.head_free⟩

/-- A token has its segments in one way only. -/
instance : Subsingleton (Layout token) where
  allEq a b := by
    have hlast : (a.message, a.tail) = (b.message, b.tail) :=
      Option.some.inj (a.splitLast?_eq.symm.trans b.splitLast?_eq)
    obtain ⟨hmessage, htail⟩ := Prod.mk.inj hlast
    have hfirst : (a.head, a.body) = (b.head, b.body) :=
      Option.some.inj (a.splitFirst?_eq.symm.trans (hmessage ▸ b.splitFirst?_eq))
    obtain ⟨hhead, hbody⟩ := Prod.mk.inj hfirst
    cases a
    cases b
    cases hhead
    cases hbody
    cases htail
    rfl

/-! ## What a segment stands for -/

/-- A segment that stands for an object, for a reader that goes so deep. -/
def Holds (depth : Json.Depth) (text : List Char) (members : Payload.Members) : Prop :=
  ∃ octets, Base64.Spells text octets ∧ Json.parseOctets depth octets = .ok (.obj members)

variable {depth : Json.Depth}

theorem Holds.unique {text : List Char} {members others : Payload.Members}
    (h : Holds depth text members) (h' : Holds depth text others) : members = others := by
  obtain ⟨octets, hspells, hparse⟩ := h
  obtain ⟨octets', hspells', hparse'⟩ := h'
  obtain rfl := hspells.unique hspells'
  rw [hparse] at hparse'
  exact Json.obj.inj (Except.ok.inj hparse')

/-- A segment that was made of an object of texts stands for it. -/
theorem holds_segment {fields : List (String × String)} (h : (fields.map (·.1)).Nodup) :
    Holds depth (segment (.obj (Json.Parser.texts fields))) (Json.Parser.texts fields) :=
  ⟨_, Base64.decodeUnpadded?_eq_some_iff.mp (Base64.decodeUnpadded?_encodeUnpadded _),
    Json.parseOctets_print depth h⟩

theorem unsegment_eq_ok_iff {problem : TokenProblem} {text : List Char} {octets : List UInt8} :
    unsegment problem text = .ok octets ↔ Base64.Spells text octets := by
  rw [← Base64.decodeUnpadded?_eq_some_iff]
  unfold unsegment
  cases Base64.decodeUnpadded? text <;> simp

theorem object_eq_ok_iff {malformed notObject : TokenProblem} {octets : List UInt8}
    {members : Payload.Members} :
    object depth malformed notObject octets = .ok members
      ↔ Json.parseOctets depth octets = .ok (.obj members) := by
  unfold object
  split <;> simp_all

/-! ## What the checks say -/

/-- Goes on unless a condition holds. -/
theorem guard_eq_ok_iff {β : Type} {p : Prop} [Decidable p] {failure : Failure}
    {f : Unit → Except Failure β} {b : β} :
    (if p then .error failure >>= f else f ()) = .ok b ↔ ¬p ∧ f () = .ok b := by
  by_cases hp : p
  · rw [if_pos hp]
    exact ⟨fun h => (by cases h), fun h => absurd hp h.1⟩
  · rw [if_neg hp]
    exact ⟨fun h => ⟨hp, h⟩, fun h => h.2⟩

/-- A text without two periods has no segments. -/
theorem parts_of_not_layout (h : ¬Nonempty (Layout token)) :
    parts depth token = .error (refused .segments) := by
  unfold parts
  cases hlast : splitLast? '.' token with
  | none => rfl
  | some split =>
      obtain ⟨message, tail⟩ := split
      obtain ⟨rfl, htail⟩ := splitLast?_eq_some_iff.mp hlast
      cases hfirst : splitFirst? '.' message with
      | none => simp only [hfirst]
      | some split =>
          obtain ⟨head, body⟩ := split
          obtain ⟨rfl, hhead⟩ := splitFirst?_eq_some_iff.mp hfirst
          exact absurd ⟨⟨head, body, tail, rfl, hhead, htail⟩⟩ h

/-- The segments of a token are read from the first to the last. -/
theorem Layout.parts_eq (layout : Layout token) : parts depth token = (do
    let octets ← unsegment .headerPadding layout.head
    let header ← object depth .headerString .headerObject octets
    if isDetached header && !layout.body.isEmpty then .error (refused .detachedPayload)
    let payload ← unsegment .payloadPadding layout.body
    let signature ← unsegment .signaturePadding layout.tail
    .ok ⟨layout.message, header, payload, signature⟩) := by
  unfold parts
  rw [layout.splitLast?_eq]
  simp only [layout.splitFirst?_eq]

theorem parts_eq_ok_iff {found : Parts} :
    parts depth token = .ok found ↔ ∃ layout : Layout token,
      found.message = layout.message ∧ Holds depth layout.head found.header
        ∧ (isDetached found.header = true → layout.body = [])
        ∧ Base64.Spells layout.body found.payload ∧ Base64.Spells layout.tail found.signature := by
  constructor
  · intro h
    by_cases hlayout : Nonempty (Layout token)
    case neg =>
      rw [parts_of_not_layout hlayout] at h
      cases h
    obtain ⟨layout⟩ := hlayout
    rw [layout.parts_eq] at h
    obtain ⟨octets, hhead, h⟩ := bind_eq_ok.mp h
    obtain ⟨header, hheader, h⟩ := bind_eq_ok.mp h
    obtain ⟨hdetached, h⟩ := guard_eq_ok_iff.mp h
    obtain ⟨payload, hpayload, h⟩ := bind_eq_ok.mp h
    obtain ⟨signature, hsignature, h⟩ := bind_eq_ok.mp h
    obtain rfl := Except.ok.inj h
    refine ⟨layout, rfl, ⟨octets, unsegment_eq_ok_iff.mp hhead, object_eq_ok_iff.mp hheader⟩, ?_,
      unsegment_eq_ok_iff.mp hpayload, unsegment_eq_ok_iff.mp hsignature⟩
    simpa using hdetached
  · rintro ⟨layout, hmessage, ⟨octets, hhead, hheader⟩, hdetached, hpayload, hsignature⟩
    rw [layout.parts_eq]
    refine bind_eq_ok.mpr ⟨octets, unsegment_eq_ok_iff.mpr hhead, ?_⟩
    refine bind_eq_ok.mpr ⟨found.header, object_eq_ok_iff.mpr hheader, ?_⟩
    refine guard_eq_ok_iff.mpr ⟨by simpa using hdetached, ?_⟩
    refine bind_eq_ok.mpr ⟨found.payload, unsegment_eq_ok_iff.mpr hpayload, ?_⟩
    refine bind_eq_ok.mpr ⟨found.signature, unsegment_eq_ok_iff.mpr hsignature, ?_⟩
    rw [← hmessage]

/-- Checks the identifier of a key, if there is one. -/
def checkKeyId (header : Payload.Members) : Except Failure Unit :=
  match Json.find? header "kid" with
  | none | some (.str _) => .ok ()
  | some _ => .error (refused .keyId)

/-- Checks the extensions that a token insists on, if it insists on any. -/
def checkExtensions (header : Payload.Members) : Except Failure Unit :=
  match Json.find? header "crit" with
  | none => .ok ()
  | some (.arr (first :: rest)) => checkCritical header (first :: rest)
  | some _ => .error (refused .criticalList)

theorem checkHeader_eq (header : Payload.Members) : checkHeader header = (do
    checkKeyId header
    checkExtensions header
    if isDetached header then .error (refused .detachedContent) else .ok ()) := by
  -- Each of the first two checks goes on with whatever stands behind it.
  have hkeyId : ∀ after : Unit → Except Failure Unit,
      (match Json.find? header "kid" with
        | none => after ()
        | some (.str _) => after ()
        | some _ => .error (refused .keyId) >>= after) = checkKeyId header >>= after := by
    intro after
    unfold checkKeyId
    split <;> rfl
  have hextensions : ∀ after : Unit → Except Failure Unit,
      (match Json.find? header "crit" with
        | none => after ()
        | some (.arr (first :: rest)) => checkCritical header (first :: rest) >>= after
        | some _ => .error (refused .criticalList) >>= after)
        = checkExtensions header >>= after := by
    intro after
    unfold checkExtensions
    split <;> rfl
  rw [← hextensions, ← hkeyId]
  rfl

/-- A header that passes does not keep its payload elsewhere. -/
theorem isDetached_of_checkHeader {header : Payload.Members} (h : checkHeader header = .ok ()) :
    isDetached header = false := by
  rw [checkHeader_eq] at h
  obtain ⟨_, -, hrest⟩ := bind_eq_ok.mp h
  obtain ⟨_, -, hlast⟩ := bind_eq_ok.mp hrest
  by_cases hdetached : isDetached header = true
  · rw [if_pos hdetached] at hlast
    cases hlast
  · exact eq_false_of_ne_true hdetached

theorem asText?_eq_some_iff {value : Json} {text : String} :
    value.asText? = some text ↔ value = .text text := by
  constructor
  · intro h
    unfold Json.asText? at h
    split at h
    · rw [Option.some.inj h]
      rfl
    · cases h
  · rintro rfl
    rfl

/-- The header names the codec's algorithm, which is one that signs, and the signature is the one
that this algorithm makes with the codec's secret. -/
theorem checkSignature_eq_ok_iff {codec : Codec} {found : Parts} :
    checkSignature codec found = .ok () ↔ ∃ algorithm,
      Algorithm.ofName? codec.algorithm = some algorithm ∧ algorithm ≠ .unsigned
        ∧ algorithm.takes codec.secret = true
        ∧ Json.find? found.header "alg" = some (.text codec.algorithm)
        ∧ found.signature = algorithm.sign codec.secret.key (octets found.message) := by
  unfold checkSignature
  constructor
  · intro h
    cases halg : Json.find? found.header "alg" with
    | none =>
        rw [halg] at h
        cases h
    | some named =>
        rw [halg] at h
        obtain ⟨hallowed, h⟩ := guard_eq_ok_iff.mp h
        obtain ⟨-, hnamed⟩ := not_or.mp hallowed
        cases hname : Algorithm.ofName? codec.algorithm with
        | none =>
            rw [hname] at h
            cases h
        | some algorithm =>
            rw [hname] at h
            obtain ⟨htakes, h⟩ := guard_eq_ok_iff.mp h
            have hsignature : ¬(algorithm = .unsigned
                ∨ found.signature ≠ algorithm.sign codec.secret.key (octets found.message)) :=
              fun hwrong => by rw [if_pos hwrong] at h; cases h
            obtain ⟨hsigned, hsignature⟩ := not_or.mp hsignature
            exact ⟨algorithm, rfl, hsigned, by simpa using htakes,
              congrArg some (asText?_eq_some_iff.mp (not_not.mp hnamed)), not_not.mp hsignature⟩
  · rintro ⟨algorithm, hname, hsigned, htakes, halg, hsignature⟩
    have hnonempty : codec.algorithm ≠ "" := by
      intro hempty
      rw [hempty] at hname
      cases hname
    rw [halg]
    refine guard_eq_ok_iff.mpr ⟨not_or.mpr ⟨hnonempty, not_not.mpr rfl⟩, ?_⟩
    rw [hname]
    refine guard_eq_ok_iff.mpr ⟨by simpa using htakes, ?_⟩
    exact if_neg (not_or.mpr ⟨hsigned, not_not.mpr hsignature⟩)

/-- A payload that passes the checks of its claims has an address, of whatever kind. -/
theorem email_of_checkClaims {now : Int} {claims : Payload.Members}
    (h : checkClaims now claims = .ok ()) : ∃ value, Json.find? claims "email" = some value := by
  cases hemail : Json.find? claims "email" with
  | none =>
      unfold checkClaims at h
      rw [hemail] at h
      cases h
  | some value => exact ⟨value, rfl⟩

/-! ## Signed tokens -/

/-- A token with the signature of a codec: the header names the codec's algorithm and asks for
nothing that is not understood, and the last segment is what this algorithm makes of the text in
front of it with the codec's secret. What the payload says is left open. -/
structure Signed (codec : Codec) (depth : Json.Depth) (token : List Char) extends Layout token where
  algorithm : Algorithm
  header : Payload.Members
  payload : List UInt8
  algorithm_named : Algorithm.ofName? codec.algorithm = some algorithm
  algorithm_signs : algorithm ≠ .unsigned
  secret_taken : algorithm.takes codec.secret = true
  header_read : Holds depth head header
  header_checked : checkHeader header = .ok ()
  header_names : Json.find? header "alg" = some (.text codec.algorithm)
  payload_read : Base64.Spells body payload
  signature_read : Base64.Spells tail (algorithm.sign codec.secret.key (octets toLayout.message))

variable {codec : Codec}

/-- The parts that a signed token is taken apart into. -/
def Signed.parts (signed : Signed codec depth token) : Parts where
  message := signed.message
  header := signed.header
  payload := signed.payload
  signature := signed.algorithm.sign codec.secret.key (octets signed.message)

/-! ## Reading in two steps -/

/-- The payload of a token that passes all checks of its header and its signature. -/
def Codec.signedPayload (codec : Codec) (depth : Json.Depth) (token : List Char) :
    Except Failure (List UInt8) := do
  let found ← SessionToken.parts depth token
  checkHeader found.header
  checkSignature codec found
  .ok found.payload

/-- The address of a payload that passes all checks of its claims. -/
def address (depth : Json.Depth) (now : Int) (payload : List UInt8) :
    Except Failure JsonString := do
  let claims ← object depth .payloadString .payloadObject payload
  checkClaims now claims
  match (Payload.required claims "email" Payload.anyString).toExcept with
  | .ok email => .ok email
  | .error complaints => .error (.crash (.payload complaints))

theorem Codec.decode_eq (codec : Codec) (depth : Json.Depth) (now : Int) (token : List Char) :
    codec.decode depth now token = codec.signedPayload depth token >>= address depth now := by
  unfold Codec.decode Codec.signedPayload
  simp only [bind_assoc]
  rfl

theorem Codec.signedPayload_eq_ok_iff {payload : List UInt8} :
    codec.signedPayload depth token = .ok payload
      ↔ ∃ signed : Signed codec depth token, signed.payload = payload := by
  unfold Codec.signedPayload
  constructor
  · intro h
    obtain ⟨found, hparts, hrest⟩ := bind_eq_ok.mp h
    obtain ⟨_, hheader, hrest'⟩ := bind_eq_ok.mp hrest
    obtain ⟨_, hsignature, hpayload⟩ := bind_eq_ok.mp hrest'
    obtain ⟨layout, hmessage, hread, -, hbody, htail⟩ := parts_eq_ok_iff.mp hparts
    obtain ⟨algorithm, hname, hsigned, htakes, halg, hsign⟩ :=
      checkSignature_eq_ok_iff.mp hsignature
    rw [hsign, hmessage] at htail
    exact ⟨⟨layout, algorithm, found.header, found.payload, hname, hsigned, htakes, hread, hheader,
      halg, hbody, htail⟩, Except.ok.inj hpayload⟩
  · rintro ⟨signed, rfl⟩
    refine bind_eq_ok.mpr ⟨signed.parts, parts_eq_ok_iff.mpr ⟨signed.toLayout, rfl,
      signed.header_read, fun h => ?_, signed.payload_read, signed.signature_read⟩, ?_⟩
    · rw [Signed.parts, isDetached_of_checkHeader signed.header_checked] at h
      cases h
    refine bind_eq_ok.mpr ⟨(), signed.header_checked, ?_⟩
    refine bind_eq_ok.mpr ⟨(), checkSignature_eq_ok_iff.mpr ⟨signed.algorithm,
      signed.algorithm_named, signed.algorithm_signs, signed.secret_taken, signed.header_names,
      rfl⟩, rfl⟩

theorem address_eq_ok_iff {now : Int} {payload : List UInt8} {email : JsonString} :
    address depth now payload = .ok email ↔ ∃ claims,
      Json.parseOctets depth payload = .ok (.obj claims) ∧ checkClaims now claims = .ok ()
      ∧ Json.find? claims "email" = some (.str email) := by
  unfold address
  constructor
  · intro h
    obtain ⟨claims, hclaims, hrest⟩ := bind_eq_ok.mp h
    obtain ⟨_, hchecked, hemail⟩ := bind_eq_ok.mp hrest
    refine ⟨claims, object_eq_ok_iff.mp hclaims, hchecked, ?_⟩
    obtain ⟨value, hvalue⟩ := email_of_checkClaims hchecked
    rw [Payload.required_of_find? hvalue] at hemail
    cases htext : Payload.anyString value with
    | error complaint =>
        rw [htext] at hemail
        cases hemail
    | ok text =>
        rw [htext] at hemail
        obtain rfl : text = email := Except.ok.inj hemail
        rw [hvalue, Payload.anyString_eq_ok_iff.mp htext]
  · rintro ⟨claims, hparse, hchecked, hemail⟩
    refine bind_eq_ok.mpr ⟨claims, object_eq_ok_iff.mpr hparse, ?_⟩
    refine bind_eq_ok.mpr ⟨(), hchecked, ?_⟩
    rw [Payload.required_of_find? hemail]
    rfl

/-- A token is read as an address if it is signed, its payload is an object that names the address,
and nothing that the payload claims speaks against it. -/
theorem Codec.decode_eq_ok_iff {now : Int} {email : JsonString} :
    codec.decode depth now token = .ok email ↔ ∃ signed : Signed codec depth token, ∃ claims,
      Json.parseOctets depth signed.payload = .ok (.obj claims) ∧ checkClaims now claims = .ok ()
        ∧ Json.find? claims "email" = some (.str email) := by
  rw [Codec.decode_eq, bind_eq_ok]
  simp only [Codec.signedPayload_eq_ok_iff, address_eq_ok_iff]
  constructor
  · rintro ⟨_, ⟨signed, rfl⟩, hclaims⟩
    exact ⟨signed, hclaims⟩
  · rintro ⟨signed, hclaims⟩
    exact ⟨_, ⟨signed, rfl⟩, hclaims⟩

/-! ## Forgeries -/

/-- A token that is let in at a time, as somebody's. -/
def Codec.Accepts (codec : Codec) (depth : Json.Depth) (now : Int) (token : List Char) : Prop :=
  ∃ email, codec.decode depth now token = .ok email

theorem Codec.signed_of_decode {now : Int} {email : JsonString}
    (h : codec.decode depth now token = .ok email) : ∃ signed : Signed codec depth token, ∃ claims,
      Holds depth signed.body claims ∧ Json.find? claims "email" = some (.str email) := by
  obtain ⟨signed, claims, hclaims, -, hemail⟩ := Codec.decode_eq_ok_iff.mp h
  exact ⟨signed, claims, ⟨signed.payload, signed.payload_read, hclaims⟩, hemail⟩

/-- Whatever segments an accepted token is found to have, they are the ones of the signed token. -/
theorem Codec.Accepts.signed {now : Int} (h : codec.Accepts depth now token)
    (layout : Layout token) :
    ∃ signed : Signed codec depth token, signed.toLayout = layout ∧ ∃ claims email,
      Holds depth signed.body claims ∧ Json.find? claims "email" = some (.str email) := by
  obtain ⟨email, hdecode⟩ := h
  obtain ⟨signed, claims, hclaims, hemail⟩ := Codec.signed_of_decode hdecode
  exact ⟨signed, Subsingleton.elim _ _, claims, email, hclaims, hemail⟩

/-- **Only signed tokens are accepted.** The header of an accepted one names exactly the codec's
algorithm, its last segment is the signature of the text in front of it, and its payload is an
object with the address as string. In particular none is accepted whose header names another
algorithm or no algorithm, or `none`, nor one without an address that is a string; and under the
signature of another text only one is that has the same signature of its own. -/
theorem accepted_is_signed (codec : Codec) (depth : Json.Depth) (now : Int) (token : List Char) :
    (∀ email, codec.decode depth now token = .ok email → ∃ signed : Signed codec depth token,
        ∃ claims, Holds depth signed.body claims ∧ Json.find? claims "email" = some (.str email))
      ∧ ∀ layout : Layout token,
        (∀ header, Holds depth layout.head header →
            Json.find? header "alg" ≠ some (.text codec.algorithm) → ¬codec.Accepts depth now token)
          ∧ (∀ header, Holds depth layout.head header →
            Json.find? header "alg" = some (.text "none") → ¬codec.Accepts depth now token)
          ∧ (∀ claims, Holds depth layout.body claims →
            (∀ email, Json.find? claims "email" ≠ some (.str email)) →
            ¬codec.Accepts depth now token)
          ∧ ∀ algorithm, Algorithm.ofName? codec.algorithm = some algorithm → ∀ old : List Char,
            Base64.Spells layout.tail (algorithm.sign codec.secret.key (octets old)) →
            algorithm.sign codec.secret.key (octets old)
              ≠ algorithm.sign codec.secret.key (octets layout.message) →
            ¬codec.Accepts depth now token := by
  refine ⟨fun email h => Codec.signed_of_decode h, fun layout => ⟨?_, ?_, ?_, ?_⟩⟩
  · rintro header hread hother h
    obtain ⟨signed, rfl, -⟩ := h.signed layout
    exact hother (hread.unique signed.header_read ▸ signed.header_names)
  · rintro header hread hnone h
    obtain ⟨signed, rfl, -⟩ := h.signed layout
    have hnames := signed.header_names
    rw [← hread.unique signed.header_read, hnone] at hnames
    have halgorithm : codec.algorithm = "none" := by simpa [Json.text] using hnames.symm
    -- The name `none` is the one of the algorithm that does not sign.
    have hunsigned := signed.algorithm_named
    rw [halgorithm] at hunsigned
    exact signed.algorithm_signs (Option.some.inj hunsigned).symm
  · rintro claims hread htext h
    obtain ⟨signed, rfl, claims', email, hread', hemail⟩ := h.signed layout
    exact htext email (hread.unique hread' ▸ hemail)
  · rintro algorithm hname old hspells hother h
    obtain ⟨signed, rfl, -⟩ := h.signed layout
    obtain rfl : algorithm = signed.algorithm :=
      Option.some.inj (hname.symm.trans signed.algorithm_named)
    exact hother (hspells.unique signed.signature_read)

/-- A codec accepts its own tokens, and they are signed. The same payload under a header that names
the algorithm which does not sign is not accepted. -/
theorem accepted_is_signed_of_own :
    let codec : Codec := ⟨"secret", "HS256"⟩
    let unsigned := segment (header "none") ++ '.' :: segment (payload "ann@example.com") ++ ['.']
    (∃ token, codec.encode? "ann@example.com" = some token ∧ codec.Accepts .usual 0 token.toList
        ∧ Nonempty (Signed codec .usual token.toList))
      ∧ ¬codec.Accepts .usual 0 unsigned := by
  intro codec unsigned
  constructor
  · obtain ⟨token, htoken⟩ := Option.isSome_iff_exists.mp
      (Codec.encode?_isSome_iff.mpr ⟨.hs256, rfl, by decide⟩ :
        (codec.encode? "ann@example.com").isSome = true)
    have hdecode := Codec.decode_encode? htoken (by decide) .usual 0
    obtain ⟨signed, -⟩ := (accepted_is_signed codec .usual 0 token.toList).1 _ hdecode
    exact ⟨token, htoken, ⟨_, hdecode⟩, ⟨signed⟩⟩
  · have hfree : '.' ∉ segment (header "none") := fun h =>
      (Base64.mem_encodeUnpadded Base64.addressSafe_isReadable h).2 rfl
    have hdistinct : ((headerFields "none").map (·.1)).Nodup := show ["alg", "typ"].Nodup by decide
    have hheader : Holds .usual (segment (header "none"))
        (Json.Parser.texts (headerFields "none")) := holds_segment hdistinct
    let layout : Layout unsigned :=
      ⟨segment (header "none"), segment (payload "ann@example.com"), [], rfl, hfree,
        List.not_mem_nil⟩
    exact ((accepted_is_signed codec .usual 0 unsigned).2 layout).2.1 _ hheader rfl

end Accounts.SessionToken
