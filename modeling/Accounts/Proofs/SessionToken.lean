import Accounts.Proofs.Base64
import Accounts.Proofs.Json
import Accounts.Proofs.Text.Split
import Accounts.SessionToken.Codec

/-!
# Session tokens are read back

A token is taken apart where it was put together: its segments hold no period, so the periods
between them are found again, and each segment is read as what it was made of. The header names the
codec's algorithm and nothing else that is looked at, the signature is made of the same text with
the same secret, and the payload holds an address and no claim about time. So the codec that signed
a token reads its address at any time (`Codec.decode_encode?`).
-/

namespace Accounts.SessionToken

open Text (dropWhile_ne_append dropWhile_ne_of_not_mem takeWhile_ne_append)

/-! ## Taking apart -/

/-- Behind the last separator there is none. -/
theorem splitLast?_append {sep : Char} {back : List Char} (h : sep ∉ back) (front : List Char) :
    splitLast? sep (front ++ sep :: back) = some (front, back) := by
  have hback : sep ∉ back.reverse := fun hmem => h (List.mem_reverse.mp hmem)
  unfold splitLast?
  simp only [List.reverse_append, List.reverse_cons, List.append_assoc, List.singleton_append,
    dropWhile_ne_append hback, takeWhile_ne_append hback, List.reverse_reverse]

/-- In front of the first separator there is none. -/
theorem splitFirst?_append {sep : Char} {front : List Char} (h : sep ∉ front)
    (back : List Char) : splitFirst? sep (front ++ sep :: back) = some (front, back) := by
  unfold splitFirst?
  simp only [dropWhile_ne_append h, takeWhile_ne_append h]

theorem splitLast?_eq_some_iff {sep : Char} {text front back : List Char} :
    splitLast? sep text = some (front, back) ↔ text = front ++ sep :: back ∧ sep ∉ back := by
  constructor
  · intro h
    by_cases hmem : sep ∈ text
    case neg =>
      have hnone : splitLast? sep text = none := by
        unfold splitLast?
        simp only [dropWhile_ne_of_not_mem fun h => hmem (List.mem_reverse.mp h)]
      rw [hnone] at h
      cases h
    obtain ⟨last, rest, hback, hfree⟩ := List.eq_append_cons_of_mem (List.mem_reverse.mpr hmem)
    have htext : text = rest.reverse ++ sep :: last.reverse := by
      rw [← text.reverse_reverse, hback]
      simp only [List.reverse_append, List.reverse_cons, List.append_assoc, List.singleton_append]
    have hlast : sep ∉ last.reverse := fun hmem => hfree (List.mem_reverse.mp hmem)
    rw [htext, splitLast?_append hlast] at h
    obtain ⟨rfl, rfl⟩ := Prod.mk.inj (Option.some.inj h)
    exact ⟨htext, hlast⟩
  · rintro ⟨rfl, hfree⟩
    exact splitLast?_append hfree front

theorem splitFirst?_eq_some_iff {sep : Char} {text front back : List Char} :
    splitFirst? sep text = some (front, back) ↔ text = front ++ sep :: back ∧ sep ∉ front := by
  constructor
  · intro h
    by_cases hmem : sep ∈ text
    case neg =>
      have hnone : splitFirst? sep text = none := by
        unfold splitFirst?
        simp only [dropWhile_ne_of_not_mem hmem]
      rw [hnone] at h
      cases h
    obtain ⟨first, rest, rfl, hfree⟩ := List.eq_append_cons_of_mem hmem
    rw [splitFirst?_append hfree] at h
    obtain ⟨rfl, rfl⟩ := Prod.mk.inj (Option.some.inj h)
    exact ⟨rfl, hfree⟩
  · rintro ⟨rfl, hfree⟩
    exact splitFirst?_append hfree back

theorem unsegment_encode (problem : TokenProblem) (octets : List UInt8) :
    unsegment problem (Base64.encodeUnpadded Base64.addressSafe octets) = .ok octets := by
  rw [unsegment, Base64.decodeUnpadded?_encodeUnpadded]

/-- A segment that was made of an object of texts is read as the object. -/
theorem object_print (depth : Json.Depth) {malformed notObject : TokenProblem}
    {fields : List (String × String)} (h : (fields.map (·.1)).Nodup) :
    object depth malformed notObject (octets (Json.obj (Json.Parser.texts fields)).print)
      = .ok (Json.Parser.texts fields) := by
  rw [object, octets, Json.parseOctets_print depth h]

/-! ## The token of an address -/

def headerFields (algorithm : String) : List (String × String) :=
  [("alg", algorithm), ("typ", "JWT")]

def payloadFields (email : String) : List (String × String) := [("email", email)]

/-- What is signed for an address. -/
def message (algorithm email : String) : List Char :=
  segment (header algorithm) ++ '.' :: segment (payload email)

/-- The parts of the token for an address. -/
def partsOf (algorithm email : String) (signature : List UInt8) : Parts where
  message := message algorithm email
  header := Json.Parser.texts (headerFields algorithm)
  payload := octets (payload email).print
  signature := signature

theorem parts_token (depth : Json.Depth) (algorithm email : String) (signature : List UInt8) :
    parts depth (message algorithm email
        ++ '.' :: Base64.encodeUnpadded Base64.addressSafe signature)
      = .ok (partsOf algorithm email signature) := by
  have hfree : ∀ octets, '.' ∉ Base64.encodeUnpadded Base64.addressSafe octets := fun octets h =>
    (Base64.mem_encodeUnpadded Base64.addressSafe_isReadable h).2 rfl
  have hdistinct : ((headerFields algorithm).map (·.1)).Nodup := show ["alg", "typ"].Nodup by decide
  have hheader : object depth .headerString .headerObject (octets (header algorithm).print)
      = .ok (Json.Parser.texts (headerFields algorithm)) := object_print depth hdistinct
  have hdetached : isDetached (Json.Parser.texts (headerFields algorithm)) = false := rfl
  unfold parts
  rw [splitLast?_append (hfree signature)]
  simp only [message]
  rw [segment, splitFirst?_append (hfree _)]
  simp only [segment, unsegment_encode, bind, Except.bind, hheader, hdetached, Bool.false_and]
  rfl

/-! ## Checks -/

theorem checkHeader_fields (algorithm : String) :
    checkHeader (Json.Parser.texts (headerFields algorithm)) = .ok () := rfl

/-- A payload that holds an address only claims nothing about time. -/
theorem checkClaims_fields (now : Int) (email : String) :
    checkClaims now (Json.Parser.texts (payloadFields email)) = .ok () := rfl

/-- The signature of a codec's own token. -/
def signatureOf (codec : Codec) (algorithm : Algorithm) (email : String) : List UInt8 :=
  algorithm.sign codec.secret.key (octets (message codec.algorithm email))

/-- A token that was signed: the algorithm is known and takes the secret. -/
theorem Codec.encode?_eq_some {codec : Codec} {email token : String}
    (h : codec.encode? email = some token) :
    ∃ algorithm, Algorithm.ofName? codec.algorithm = some algorithm
      ∧ algorithm.takes codec.secret = true
      ∧ token.toList = message codec.algorithm email
        ++ '.' :: Base64.encodeUnpadded Base64.addressSafe (signatureOf codec algorithm email) := by
  unfold Codec.encode? at h
  obtain ⟨algorithm, hname, h⟩ := Option.bind_eq_some_iff.mp h
  split at h
  · rename_i htakes
    refine ⟨algorithm, hname, htakes, ?_⟩
    rw [← Option.some.inj h, String.toList_ofList]
    rfl
  · cases h

/-- Whether there is a token does not depend on the address. -/
theorem Codec.encode?_isSome_iff {codec : Codec} {email : String} :
    (codec.encode? email).isSome = true ↔ ∃ algorithm,
      Algorithm.ofName? codec.algorithm = some algorithm
        ∧ algorithm.takes codec.secret = true := by
  constructor
  · intro h
    obtain ⟨token, htoken⟩ := Option.isSome_iff_exists.mp h
    obtain ⟨algorithm, hname, htakes, -⟩ := Codec.encode?_eq_some htoken
    exact ⟨algorithm, hname, htakes⟩
  · rintro ⟨algorithm, hname, htakes⟩
    unfold Codec.encode?
    rw [hname, Option.bind_eq_bind, Option.bind_some, if_pos htakes]
    rfl

/-- The signature that the codec itself made is the one that it expects. -/
theorem checkSignature_partsOf {codec : Codec} {algorithm : Algorithm}
    (hname : Algorithm.ofName? codec.algorithm = some algorithm)
    (htakes : algorithm.takes codec.secret = true) (hsigned : algorithm ≠ .unsigned)
    (email : String) :
    checkSignature codec (partsOf codec.algorithm email (signatureOf codec algorithm email))
      = .ok () := by
  have hnamed : codec.algorithm ≠ "" := by
    intro hempty
    rw [hempty] at hname
    cases hname
  have halg : Json.find? (Json.Parser.texts (headerFields codec.algorithm)) "alg"
      = some (.text codec.algorithm) := rfl
  have hallowed : ¬(codec.algorithm = ""
      ∨ (Json.text codec.algorithm).asText? ≠ some codec.algorithm) :=
    fun h => h.elim hnamed fun hne => hne rfl
  have hexpected : ¬(algorithm = .unsigned
      ∨ signatureOf codec algorithm email ≠ algorithm.sign codec.secret.key
        (octets (message codec.algorithm email))) :=
    fun h => h.elim hsigned fun hne => hne rfl
  unfold checkSignature
  simp only [partsOf, halg, if_neg hallowed, hname, htakes, Bool.not_true, Bool.false_eq_true,
    if_false, pure, Except.pure, bind, Except.bind]
  exact if_neg hexpected

/-- A token that was signed is read as its address, now and at any time. -/
theorem Codec.decode_encode? {codec : Codec} {email token : String}
    (h : codec.encode? email = some token)
    (hsigned : Algorithm.ofName? codec.algorithm ≠ some .unsigned) (depth : Json.Depth)
    (now : Int) :
    codec.decode depth now token.toList = .ok (.text email) := by
  obtain ⟨algorithm, hname, htakes, htoken⟩ := Codec.encode?_eq_some h
  have hchecked := checkSignature_partsOf hname htakes (fun heq => hsigned (heq ▸ hname)) email
  have hdistinct : ((payloadFields email).map (·.1)).Nodup := List.nodup_singleton "email"
  have hclaims : object depth .payloadString .payloadObject (octets (payload email).print)
      = .ok (Json.Parser.texts (payloadFields email)) := object_print depth hdistinct
  unfold Codec.decode
  rw [htoken, parts_token]
  simp only [bind, Except.bind, partsOf] at hchecked ⊢
  simp only [hchecked, checkHeader_fields, hclaims, checkClaims_fields]
  rfl

/-! ## Round trips -/

/-- The algorithms that sign. -/
theorem Algorithm.signs_of_mem {name : String} (h : name ∈ ["HS256", "HS384", "HS512"]) :
    ∃ algorithm, Algorithm.ofName? name = some algorithm ∧ algorithm ≠ .unsigned := by
  simp only [List.mem_cons, List.not_mem_nil, or_false] at h
  rcases h with rfl | rfl | rfl
  · exact ⟨.hs256, rfl, by decide⟩
  · exact ⟨.hs384, rfl, by decide⟩
  · exact ⟨.hs512, rfl, by decide⟩

/-- Secrets that are empty or look like a key are not signed with. -/
theorem Algorithm.takes_iff {algorithm : Algorithm} (h : algorithm ≠ .unsigned) (secret : Secret) :
    algorithm.takes secret = true ↔ secret.chars ≠ [] ∧ isKeyMaterial secret.chars = false := by
  have htakes : algorithm.takes secret =
      (!secret.chars.isEmpty && !isKeyMaterial secret.chars) := by
    cases algorithm with
    | unsigned => exact absurd rfl h
    | _ => rfl
  rw [htakes, Bool.and_eq_true, Bool.not_eq_true', Bool.not_eq_true', ← Bool.not_eq_true,
    List.isEmpty_iff]

/-- A codec that signs makes a token for every text, unless its secret is one that is not signed
with, and reads each of its tokens as the text that it was made for, at any time. -/
theorem token_round_trip (codec : Codec)
    (halgorithm : codec.algorithm ∈ ["HS256", "HS384", "HS512"]) (email : String) :
    ((codec.encode? email).isSome = true ↔
        codec.secret.chars ≠ [] ∧ isKeyMaterial codec.secret.chars = false)
      ∧ ∀ token, codec.encode? email = some token →
        ∀ depth now, codec.decode depth now token.toList = .ok (.text email) := by
  obtain ⟨algorithm, hname, hsigned⟩ := Algorithm.signs_of_mem halgorithm
  constructor
  · rw [Codec.encode?_isSome_iff, ← Algorithm.takes_iff hsigned]
    constructor
    · rintro ⟨other, hother, htakes⟩
      rw [hname] at hother
      obtain rfl : algorithm = other := Option.some.inj hother
      exact htakes
    · exact fun htakes => ⟨algorithm, hname, htakes⟩
  · intro token htoken depth now
    refine Codec.decode_encode? htoken ?_ depth now
    rw [hname]
    exact fun heq => hsigned (Option.some.inj heq)

/-- A text with quotes, a control character and a character beyond sixteen bits. -/
theorem token_round_trip_of_quotes :
    let codec : Codec := ⟨"secret", "HS384"⟩
    let email := "\"ann\"\u0000😀@example.com"
    ∃ token, codec.encode? email = some token
      ∧ ∀ depth now, codec.decode depth now token.toList = .ok (.text email) := by
  intro codec email
  obtain ⟨hsome, hdecode⟩ := token_round_trip codec (by decide) email
  obtain ⟨token, htoken⟩ := Option.isSome_iff_exists.mp (hsome.mpr (by decide))
  exact ⟨token, htoken, hdecode token htoken⟩

end Accounts.SessionToken
