import Accounts.Proofs.Api.Commit
import Accounts.Proofs.Json.Depth

/-!
# What becomes of a body

Whatever octets are sent and whatever form they are checked against, there is a payload, or the
caller is told by field what is wrong, or the request crashes (`body_parsed_or_refused`). It
crashes for one reason only: the reader does not go as deep as the document. No form can prevent
that, since none of them has been asked by then.

A form that refuses an object gives its complaints in a row. They are told grouped by field
(`Groups`), and what is told is what was complained about: of every field all of it and in its
order, and of all fields together neither more nor less.
-/

namespace Accounts

open Payload

/-- Complaints are told by field. -/
structure Payload.Groups (complaints : List FieldComplaint) (fields : Table String (List String)) :
    Prop where
  /-- Under each field stand its messages, in the order of the complaints. -/
  messages : ∀ name, fields.get? name =
    if messagesAt complaints name = [] then none else some (messagesAt complaints name)
  /-- The fields stand in the order in which they are first complained about, each of them once. -/
  names : fields.keys = (complaints.map (·.field)).eraseDups
  /-- All fields together tell the complaints, none of them twice. -/
  whole : (toldIn fields).Perm (complaints.map fun c => (c.field, c.complaint.text))

theorem Payload.groups_grouped (complaints : List FieldComplaint) :
    Groups complaints (grouped complaints) :=
  ⟨get?_grouped complaints, keys_grouped complaints, toldIn_grouped complaints⟩

namespace Api

/-- Why a body is refused, with what its sender is told by field. -/
inductive RefusedBy {α : Type} (depth : Json.Depth) (check : Members → Checked α)
    (body : List UInt8) : Table String (List String) → Prop
  /-- An empty body stands for `null`, which is no object. -/
  | empty : body = [] → RefusedBy depth check body [("body", [BodyProblem.notObject.text])]
  | malformed : body ≠ [] → Json.parseOctets depth body = .error .malformed →
      RefusedBy depth check body [("body", [BodyProblem.malformed.text])]
  | notObject (value : Json) : Json.parseOctets depth body = .ok value →
      (∀ members, value ≠ .obj members) →
      RefusedBy depth check body [("body", [BodyProblem.notObject.text])]
  | rejected (members : Members) (complaints : List FieldComplaint)
      (fields : Table String (List String)) :
      Json.parseOctets depth body = .ok (.obj members) → check members = .bad complaints →
      Groups complaints fields → RefusedBy depth check body fields

section Refused

variable {α : Type} {depth : Json.Depth} {check : Members → Checked α} {body : List UInt8}

theorem payloadOf_of_tooDeep (h : Json.parseOctets depth body = .error .tooDeep) :
    payloadOf depth check body = .error (.crash .tooDeep) := by
  have hempty : body.isEmpty = false := by
    cases body with
    | nil => cases h
    | cons => rfl
  unfold payloadOf
  rw [hempty, h]
  rfl

/-- A body without a payload is refused, or it is too deep. -/
theorem refused_of_payloadOf {failure : Failure} (h : payloadOf depth check body = .error failure) :
    (∃ fields, failure = .service (.invalid fields) ∧ RefusedBy depth check body fields)
      ∨ failure = .crash .tooDeep ∧ Json.parseOctets depth body = .error .tooDeep := by
  unfold payloadOf at h
  dsimp only at h
  split at h
  · rename_i hempty
    cases h
    exact .inl ⟨_, rfl, .empty (List.isEmpty_iff.mp hempty)⟩
  · rename_i hempty
    split at h
    · rename_i hparse
      cases h
      exact .inl ⟨_, rfl, .malformed (fun heq => hempty (List.isEmpty_iff.mpr heq)) hparse⟩
    · rename_i hparse
      cases h
      exact .inr ⟨rfl, hparse⟩
    · rename_i members hparse
      split at h
      · cases h
      · rename_i complaints hcheck
        cases h
        exact .inl ⟨_, rfl, .rejected members complaints _ hparse hcheck
          (groups_grouped complaints)⟩
    · rename_i value hnot hparse
      cases h
      exact .inl ⟨_, rfl, .notObject value hparse hnot⟩

end Refused

/-- **A body is a payload, or it is refused by field, or it is too deep.** A payload is there
exactly if the body is an object that passes the check. Otherwise the answer is one of status 400
that tells by field what is wrong, or the request crashes, which it does exactly if the reader
stops at the depth of the document; that takes more openings of arrays and objects than the reader
goes down, and so many opening brackets in front do it, whatever follows them. -/
theorem body_parsed_or_refused {α : Type} (depth : Json.Depth) (check : Members → Checked α)
    (body : List UInt8) :
    (∀ payload, payloadOf depth check body = .ok payload ↔
      ∃ members, Json.parseOctets depth body = .ok (.obj members) ∧ check members = .ok payload)
    ∧ (∀ failure, payloadOf depth check body = .error failure →
      (∃ fields, failure = .service (.invalid fields)
        ∧ (ServiceError.invalid fields).status = 400 ∧ RefusedBy depth check body fields)
      ∨ failure = .crash .tooDeep ∧ Json.parseOctets depth body = .error .tooDeep)
    ∧ (Json.parseOctets depth body = .error .tooDeep →
      payloadOf depth check body = .error (.crash .tooDeep)
      ∧ ∃ codes, Json.codesOfOctets? body = some codes
        ∧ depth.levels < Json.Parser.openings codes)
    ∧ ∀ brackets tail codes, depth.levels < brackets →
      Text.Utf8.codes? tail = some codes → body = List.replicate brackets 0x5B ++ tail →
      payloadOf depth check body = .error (.crash .tooDeep) := by
  refine ⟨fun payload => ⟨parse_of_payloadOf, ?_⟩, fun failure hfailure => ?_,
    fun hdeep => ⟨payloadOf_of_tooDeep hdeep, Json.openings_of_parseOctets hdeep⟩, ?_⟩
  · rintro ⟨members, hparse, hcheck⟩
    rw [payloadOf_of_parse hparse, hcheck]
  · refine (refused_of_payloadOf hfailure).imp_left ?_
    rintro ⟨fields, rfl, hrefused⟩
    exact ⟨fields, rfl, rfl, hrefused⟩
  · rintro brackets tail codes hbrackets htail rfl
    exact payloadOf_of_tooDeep (Json.parseOctets_openings hbrackets htail)

/-- A sign-up whose body is opening brackets and nothing else. -/
theorem body_parsed_or_refused_of_brackets :
    payloadOf .usual NewIdentity.ofMembers (List.replicate 30000 0x5B) = .error (.crash .tooDeep) :=
  (body_parsed_or_refused .usual NewIdentity.ofMembers _).2.2.2 30000 [] []
    Json.Depth.usual.bounded rfl (List.append_nil _).symm

end Api

end Accounts
