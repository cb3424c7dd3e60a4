import Accounts.Proofs.Profile.Regular

/-!
# Changes are read back

The fields that are changed, as they are shown, are read as the same changes again
(`UpdateUser.ofMembers_members`): a change to a profile passes the check for changes to a user once
more, and nothing is lost or added on the way. The fields that are changed are those that were sent
(`UpdateProfile.changed_eq`).
-/

namespace Accounts

open Payload

namespace Payload

/-! ## Reading what is shown -/

theorem nullable_optionalBool (flag : Option Bool) :
    nullable boolean (.optionalBool flag) = .ok flag := by
  cases flag <;> rfl

theorem nullable_gender (gender : Option Gender) :
    nullable genderName (.ofOption (fun g => .text g.name) gender) = .ok gender := by
  rcases gender with _ | gender
  · rfl
  · cases gender <;> rfl

/-- A name that a form may hold is read back. -/
theorem nameText_optionalString {name : Option JsonString} (h : IsName name) :
    nameText (.optionalString name) = .ok name := by
  cases name with
  | none => rfl
  | some given =>
      cases given with
      | unpaired codes hcodes => exact h.elim
      | text text =>
          have hlength : ¬text.length < 1 := by
            rw [Nat.lt_one_iff, String.length_eq_zero_iff]
            exact h
          have hread : nonEmpty (.text text) = .ok text := by
            change (if text.length < 1 then _ else _ : Except Complaint String) = _
            rw [if_neg hlength]
          change ((nonEmpty (.text text)).map JsonString.text).map some = _
          rw [hread]
          rfl

/-- A field that is shown if it is changed is read as that change. -/
theorem maybe_of_find? {α : Type} {members : Members} {name : String} {read : FieldReader α}
    {shown : α → Json} {change : Option α}
    (hfind : Json.find? members name = change.map shown)
    (hread : ∀ value, change = some value → read (shown value) = .ok value) :
    maybe members name read = .ok change := by
  unfold maybe
  rw [hfind]
  cases change with
  | none => rfl
  | some value =>
      dsimp only [Option.map_some]
      rw [hread value rfl]
      rfl

/-- A field that may be left out is there if and only if it was sent. -/
theorem isSome_of_maybe {α : Type} {members : Members} {name : String} {read : FieldReader α}
    {change : Option α} (h : maybe members name read = .ok change) :
    change.isSome = (Json.find? members name).isSome := by
  unfold maybe at h
  cases hfind : Json.find? members name with
  | none =>
      rw [hfind] at h
      cases h
      rfl
  | some value =>
      rw [hfind] at h
      obtain ⟨_, -, rfl⟩ := eq_ok_of_map (eq_ok_of_check h)
      rfl

/-- The names of members that are texts. -/
theorem names?_record (entries : List (String × Json)) :
    names? (entries.map fun (name, value) => (.text name, value)) = some (entries.map (·.1)) := by
  induction entries with
  | nil => rfl
  | cons entry rest ih =>
      unfold names? at ih ⊢
      rw [List.map_cons, List.mapM_cons, ih]
      rfl

end Payload

namespace UpdateUser

/-! ## Fields that are changed -/

/-- Fields that are changed, as the members of an object. -/
def sent (entries : List (Option (String × Json))) : Members :=
  (entries.filterMap id).map fun (name, value) => (.text name, value)

/-- The changes as they are shown, as the members of an object. -/
def members (p : UpdateUser) : Members := p.changes.map fun (name, value) => (.text name, value)

variable {α : Type} {name other : String} {shown : α → Json} {change : Option α}
variable {entries : List (Option (String × Json))}

theorem find?_sent_cons : Json.find? (sent (field name shown change :: entries)) other =
    if name = other then (change.map shown).or (Json.find? (sent entries) other)
    else Json.find? (sent entries) other := by
  cases change with
  | none => simp [sent, field]
  | some value =>
      change Table.get? ((JsonString.text name, shown value) :: sent entries) (.text other) = _
      simp only [Table.get?, JsonString.text.injEq, Option.map_some, Option.some_or]
      rfl

theorem find?_sent_nil : Json.find? (sent []) other = none := rfl

theorem names_cons : ((field name shown change :: entries).filterMap id).map (·.1) =
    if change.isSome then name :: (entries.filterMap id).map (·.1)
    else (entries.filterMap id).map (·.1) := by
  cases change <;> rfl

/-- What the changes show of a field. -/
theorem find?_members (p : UpdateUser) :
    Json.find? p.members "phone" = p.phone.map .optionalString
      ∧ Json.find? p.members "first_name" = p.firstName.map .optionalString
      ∧ Json.find? p.members "last_name" = p.lastName.map .optionalString
      ∧ Json.find? p.members "middle_name" = p.middleName.map .optionalString
      ∧ Json.find? p.members "gender" = p.gender.map (.ofOption fun g => .text g.name)
      ∧ Json.find? p.members "birthdate" = p.birthdate.map .optionalTimestamp
      ∧ Json.find? p.members "is_active" = p.isActive.map .optionalBool
      ∧ Json.find? p.members "email_verified" = p.emailVerified.map .optionalBool
      ∧ Json.find? p.members "last_login_at" = p.lastLoginAt.map .optionalTimestamp := by
  have hsent : p.members = sent _ := rfl
  simp only [hsent, find?_sent_cons, find?_sent_nil, String.reduceEq, if_true, if_false,
    Option.or_none, and_self]

/-- The fields that are changed are those that the changes show, in the order of all fields. -/
theorem changed_eq (p : UpdateUser) :
    p.changes.map (·.1) = fields.filter fun name => (Json.find? p.members name).isSome := by
  obtain ⟨hphone, hfirst, hlast, hmiddle, hgender, hbirthdate, hactive, hverified, hlogin⟩ :=
    p.find?_members
  simp only [changes, names_cons, List.filterMap_nil, List.map_nil, fields, UpdateProfile.fields,
    List.cons_append, List.nil_append, List.filter_cons, List.filter_nil, hphone, hfirst, hlast,
    hmiddle, hgender, hbirthdate, hactive, hverified, hlogin, Option.isSome_map]

/-- **Changes are read back.** -/
theorem ofMembers_members {p : UpdateUser} (h : p.IsRegular) (hnames : p.HasNames) :
    ofMembers p.members = .ok p := by
  obtain ⟨hphone, hfirst, hlast, hmiddle, hgender, hbirthdate, hactive, hverified, hlogin⟩ :=
    p.find?_members
  have hknown : (p.changes.map (·.1)).filter (fun name => !fields.contains name) = [] := by
    rw [List.filter_eq_nil_iff]
    intro name hmem
    rw [changed_eq] at hmem
    rw [List.contains_iff_mem.mpr (List.mem_filter.mp hmem).1]
    exact Bool.false_ne_true
  have hshown : ∀ t, p.lastLoginAt = some t → ∀ value, t = some value → value.IsShown := by
    rintro t hset value rfl
    obtain ⟨other, hother, hshown⟩ := h.lastLoginAt _ hset
    cases hother
    exact hshown
  unfold ofMembers closed
  rw [show names? p.members = some (p.changes.map (·.1)) from names?_record p.changes]
  dsimp only
  rw [hknown, maybe_of_find? hphone fun _ _ => nullable_optionalString _,
    maybe_of_find? hfirst fun name hset => nameText_optionalString (hnames.firstName name hset),
    maybe_of_find? hlast fun name hset => nameText_optionalString (hnames.lastName name hset),
    maybe_of_find? hmiddle fun name hset => nameText_optionalString (hnames.middleName name hset),
    maybe_of_find? hgender fun _ _ => nullable_gender _,
    maybe_of_find? hbirthdate fun t hset => nullable_optionalTimestamp (h.birthdate t hset),
    maybe_of_find? hactive fun _ _ => nullable_optionalBool _,
    maybe_of_find? hverified fun _ _ => nullable_optionalBool _,
    maybe_of_find? hlogin fun t hset => nullable_optionalTimestamp (hshown t hset)]
  rfl

end UpdateUser

end Accounts
