import Mathlib.Data.List.Induction
import Accounts.Proofs.Email
import Accounts.Proofs.Table
import Accounts.Profile

/-!
# Checking payloads

A form is put together from its checked fields, so it is there only if all of them are, and a closed
form has no members besides. What is complained about a payload is grouped by its fields, and no
complaint is lost by that. Whatever form carries an e-mail address carries one in canonical form:
the reader of the field made it so.
-/

namespace Accounts

namespace Payload

namespace Checked

variable {α β : Type}

theorem map_eq_ok {f : α → β} {x : Checked α} {value : β} (h : f <$> x = .ok value) :
    ∃ a, x = .ok a ∧ value = f a := by
  cases x with
  | ok a => exact ⟨a, rfl, (Checked.ok.inj h).symm⟩
  | bad complaints => cases h

theorem seq_eq_ok {f : Checked (α → β)} {x : Checked α} {value : β} (h : f <*> x = .ok value) :
    ∃ g a, f = .ok g ∧ x = .ok a ∧ value = g a := by
  cases f with
  | ok g =>
      cases x with
      | ok a => exact ⟨g, a, rfl, rfl, (Checked.ok.inj h).symm⟩
      | bad complaints => cases h
  | bad complaints => cases x <;> cases h

theorem seqLeft_eq_ok {x : Checked α} {y : Checked β} {value : α} (h : x <* y = .ok value) :
    x = .ok value ∧ ∃ other, y = .ok other := by
  obtain ⟨g, b, hg, hy, rfl⟩ := seq_eq_ok (show Function.const β <$> x <*> y = .ok value from h)
  obtain ⟨a, rfl, rfl⟩ := map_eq_ok hg
  exact ⟨rfl, b, hy⟩

end Checked

theorem unknown_eq_ok {names : List String} {value : Unit} (h : unknown names = .ok value) :
    names = [] := by
  cases names with
  | nil => rfl
  | cons name rest => cases h

theorem mem_undeclared_iff {names declared : List String} {name : String} :
    name ∈ (names.filter fun name => !declared.contains name)
      ↔ name ∈ names ∧ name ∉ declared := by
  simp

/-- A closed form that is taken has no members but the declared ones. -/
theorem closed_eq_ok {α : Type} {members : Members} {declared : List String} {checked : Checked α}
    {value : α} (h : closed members declared checked = .ok value) :
    checked = .ok value
      ∧ ∃ names, names? members = some names ∧ ∀ name ∈ names, name ∈ declared := by
  unfold closed at h
  split at h
  · rename_i names hnames
    obtain ⟨hchecked, _, hunknown⟩ := Checked.seqLeft_eq_ok h
    refine ⟨hchecked, names, hnames, fun name hmem => ?_⟩
    by_contra hnot
    have hextra := mem_undeclared_iff.mpr ⟨hmem, hnot⟩
    rw [unknown_eq_ok hunknown] at hextra
    cases hextra
  · cases h

/-- A closed form with other members than the declared ones complains about each of them, behind
what it complains about otherwise. -/
theorem closed_of_unknown {α : Type} {members : Members} {declared : List String}
    {names : List String} (hnames : names? members = some names)
    (hunknown : ∃ name ∈ names, name ∉ declared) (checked : Checked α) :
    closed members declared checked = .bad (checked.complaints
      ++ (names.filter fun name => !declared.contains name).map (⟨·, .extra⟩)) := by
  obtain ⟨name, hmem, hnot⟩ := hunknown
  have hextra := mem_undeclared_iff.mpr ⟨hmem, hnot⟩
  unfold closed
  rw [hnames]
  dsimp only
  cases hfilter : names.filter fun name => !declared.contains name with
  | nil =>
      rw [hfilter] at hextra
      cases hextra
  | cons first rest => cases checked <;> rfl

/-- A closed form with a name that is no text complains about that alone. -/
theorem closed_of_unpaired {α : Type} {members : Members} (hnames : names? members = none)
    (declared : List String) (checked : Checked α) :
    closed members declared checked = .bad [⟨"body", .unpairedText⟩] := by
  unfold closed
  rw [hnames]

/-- What is complained about a field. -/
def messagesAt (complaints : List FieldComplaint) (name : String) : List String :=
  (complaints.filter (·.field == name)).map (·.complaint.text)

theorem messagesAt_concat (complaints : List FieldComplaint) (c : FieldComplaint) (name : String) :
    messagesAt (complaints ++ [c]) name =
      messagesAt complaints name ++ if c.field = name then [c.complaint.text] else [] := by
  unfold messagesAt
  rw [List.filter_append, List.map_append]
  by_cases hfield : c.field = name <;> simp [hfield]

theorem grouped_concat (complaints : List FieldComplaint) (c : FieldComplaint) :
    grouped (complaints ++ [c]) = (grouped complaints).put c.field
      (((grouped complaints).get? c.field).getD [] ++ [c.complaint.text]) := by
  rw [grouped, List.foldl_append]
  rfl

/-- The complaints about each field are grouped under it, all of them and in order. -/
theorem get?_grouped (complaints : List FieldComplaint) (name : String) :
    (grouped complaints).get? name =
      if messagesAt complaints name = [] then none else some (messagesAt complaints name) := by
  induction complaints using List.reverseRecOn generalizing name with
  | nil => rfl
  | append_singleton complaints c ih =>
      have hgroup :
          ((grouped complaints).get? c.field).getD [] = messagesAt complaints c.field := by
        rw [ih]
        split
        · rename_i hnone
          exact hnone.symm
        · rfl
      rw [grouped_concat, hgroup, Table.get?_put, messagesAt_concat]
      by_cases hfield : c.field = name
      · subst hfield
        simp
      · rw [if_neg hfield, if_neg hfield, List.append_nil]
        exact ih name

/-- Every complaint is told under its field. -/
theorem mem_grouped {complaints : List FieldComplaint} {c : FieldComplaint}
    (hmem : c ∈ complaints) : ∃ messages,
      (grouped complaints).get? c.field = some messages ∧ c.complaint.text ∈ messages := by
  have htold : c.complaint.text ∈ messagesAt complaints c.field :=
    List.mem_map.mpr ⟨c, List.mem_filter.mpr ⟨hmem, beq_self_eq_true _⟩, rfl⟩
  rw [get?_grouped, if_neg (List.ne_nil_of_mem htold)]
  exact ⟨_, rfl, htold⟩

/-- The fields come in the order of their first complaints, each of them once. -/
theorem keys_grouped (complaints : List FieldComplaint) :
    (grouped complaints).keys = (complaints.map (·.field)).eraseDups := by
  induction complaints using List.reverseRecOn with
  | nil => rfl
  | append_singleton complaints c ih =>
      rw [grouped_concat, Table.keys_put, ih, List.map_append, List.map_singleton,
        eraseDups_concat]
      exact if_congr List.mem_eraseDups rfl rfl

/-- Everything that complaints grouped by field tell, each message with its field. -/
def toldIn (fields : Table String (List String)) : List (String × String) :=
  fields.flatMap fun (name, messages) => messages.map (name, ·)

/-- A message that is put behind the others of its field is told besides them. -/
theorem toldIn_put (fields : Table String (List String)) (name message : String) :
    (toldIn (fields.put name ((fields.get? name).getD [] ++ [message]))).Perm
      (toldIn fields ++ [(name, message)]) := by
  induction fields with
  | nil => exact List.Perm.refl _
  | cons entry rest ih =>
      obtain ⟨field, messages⟩ := entry
      have hold : toldIn ((field, messages) :: rest) = messages.map (field, ·) ++ toldIn rest := rfl
      rw [hold, List.append_assoc, Table.get?, Table.put]
      by_cases hfield : field = name
      · subst hfield
        have hnew : toldIn ((field, messages ++ [message]) :: rest)
            = messages.map (field, ·) ++ ([(field, message)] ++ toldIn rest) := by
          simp [toldIn]
        rw [if_pos rfl, if_pos rfl, Option.getD_some, hnew]
        exact List.perm_append_comm.append_left _
      · rw [if_neg hfield, if_neg hfield]
        exact ih.append_left _

/-- No complaint is lost by grouping, and none is told twice. -/
theorem toldIn_grouped (complaints : List FieldComplaint) :
    (toldIn (grouped complaints)).Perm
      (complaints.map fun c => (c.field, c.complaint.text)) := by
  induction complaints using List.reverseRecOn with
  | nil => exact List.Perm.refl _
  | append_singleton complaints c ih =>
      rw [grouped_concat, List.map_append]
      exact (toldIn_put _ _ _).trans (ih.append_right _)

/-- A field that is there is what is read of it, or its complaint. -/
theorem required_of_find? {members : Members} {name : String} {value : Json}
    (h : Json.find? members name = some value) {α : Type} (read : FieldReader α) :
    (required members name read).toExcept
      = (read value).mapError fun complaint => [⟨name, complaint⟩] := by
  unfold required
  rw [h]
  dsimp only
  cases read value <;> rfl

theorem anyString_eq_ok_iff {value : Json} {s : JsonString} :
    anyString value = .ok s ↔ value = .str s := by
  constructor
  · intro h
    unfold anyString at h
    split at h
    · rw [Except.ok.inj h]
    · cases h
  · rintro rfl
    rfl

/-- An address that was read from a value is in canonical form. -/
theorem isAddress_of_emailAddress {value : Json} {email : String}
    (h : emailAddress value = .ok email) : Email.IsAddress email := by
  unfold emailAddress at h
  split at h
  · exact ⟨_, mapError_eq_ok.mp h⟩
  · exact ⟨_, mapError_eq_ok.mp h⟩
  · cases h

theorem eq_ok_of_check {α : Type} {name : String} {seen : Except Complaint α} {value : α}
    (h : check name seen = .ok value) : seen = .ok value := by
  cases seen with
  | error complaint => cases h
  | ok read =>
      cases h
      rfl

theorem isAddress_of_required {members : Members} {name email : String}
    (h : required members name emailAddress = .ok email) : Email.IsAddress email := by
  unfold required at h
  split at h
  · exact isAddress_of_emailAddress (eq_ok_of_check h)
  · cases h

end Payload

open Payload Checked

theorem NewIdentity.isAddress_of_ofMembers {members : Members} {p : NewIdentity}
    (h : ofMembers members = .ok p) : Email.IsAddress p.email := by
  obtain ⟨_, sagaId, h₁, -, rfl⟩ := seq_eq_ok (closed_eq_ok h).1
  obtain ⟨_, password, h₂, -, rfl⟩ := seq_eq_ok h₁
  obtain ⟨email, hemail, rfl⟩ := map_eq_ok h₂
  exact isAddress_of_required hemail

/-- All names of a user are texts. -/
def NewUser.IsNamed (p : NewUser) : Prop := p.unpairedNames = []

instance (p : NewUser) : Decidable p.IsNamed := inferInstanceAs (Decidable (_ = _))

theorem NewUser.IsNamed.firstName {p : NewUser} (h : p.IsNamed) (codes : List Nat)
    (hcodes : ¬Text.IsText codes) : p.firstName ≠ some (.unpaired codes hcodes) := fun heq => by
  simp [IsNamed, unpairedNames, heq] at h

theorem NewUser.IsNamed.lastName {p : NewUser} (h : p.IsNamed) (codes : List Nat)
    (hcodes : ¬Text.IsText codes) : p.lastName ≠ some (.unpaired codes hcodes) := fun heq => by
  simp [IsNamed, unpairedNames, heq] at h

/-- A new user with an address is checked, and gets the canonical form of the address by that. -/
theorem NewUser.checked_of_canonical {p : NewUser} {email : String}
    (h : Email.canonical p.email = .ok email) (hnamed : p.IsNamed) :
    p.checked = .ok { p with email := email } := by
  have hread : emailAddress (.text p.email) = (Email.canonical p.email).mapError .email := rfl
  have hnames : p.checkNames = .ok () := by
    unfold checkNames
    rw [show p.unpairedNames = [] from hnamed]
  unfold checked
  rw [hread, h, hnames]
  rfl

/-- A new user with a name that is no text is refused. -/
theorem NewUser.checked_of_not_isNamed {p : NewUser} (hnamed : ¬p.IsNamed) :
    ∃ complaints, p.checked = .bad complaints := by
  have hnames : ∃ complaints, p.checkNames = .bad complaints := by
    unfold checkNames
    split
    · rename_i hnone
      exact absurd hnone hnamed
    · exact ⟨_, rfl⟩
  obtain ⟨complaints, hcomplaints⟩ := hnames
  unfold checked
  rw [hcomplaints]
  cases emailAddress (.text p.email) <;> exact ⟨_, rfl⟩

theorem NewUser.isNamed_of_checked {p new : NewUser} (h : p.checked = .ok new) : p.IsNamed := by
  by_contra hnamed
  obtain ⟨complaints, hbad⟩ := NewUser.checked_of_not_isNamed hnamed
  rw [hbad] at h
  cases h

namespace Profile

theorem isAddress_of_googleOfMembers {members : Members} {p : Profile}
    (h : googleOfMembers members = .ok p) : Email.IsAddress p.email := by
  obtain ⟨_, verified, h₁, -, rfl⟩ := seq_eq_ok h
  obtain ⟨_, picture, h₂, -, rfl⟩ := seq_eq_ok h₁
  obtain ⟨_, familyName, h₃, -, rfl⟩ := seq_eq_ok h₂
  obtain ⟨_, givenName, h₄, -, rfl⟩ := seq_eq_ok h₃
  obtain ⟨_, name, h₅, -, rfl⟩ := seq_eq_ok h₄
  obtain ⟨_, email, h₆, hemail, rfl⟩ := seq_eq_ok h₅
  obtain ⟨id, -, rfl⟩ := map_eq_ok h₆
  exact isAddress_of_required hemail

theorem isAddress_of_facebookOfMembers {members : Members} {p : Profile}
    (h : facebookOfMembers members = .ok p) : Email.IsAddress p.email := by
  obtain ⟨_, gender, h₁, -, rfl⟩ := seq_eq_ok h
  obtain ⟨_, name, h₂, -, rfl⟩ := seq_eq_ok h₁
  obtain ⟨_, lastName, h₃, -, rfl⟩ := seq_eq_ok h₂
  obtain ⟨_, firstName, h₄, -, rfl⟩ := seq_eq_ok h₃
  obtain ⟨_, email, h₅, hemail, rfl⟩ := seq_eq_ok h₄
  obtain ⟨id, -, rfl⟩ := map_eq_ok h₅
  exact isAddress_of_required hemail

theorem isAddress_of_ofJson {provider : Provider} {value : Json} {p : Profile}
    (h : ofJson provider value = .ok p) : Email.IsAddress p.email := by
  unfold ofJson at h
  split at h
  · unfold ofMembers at h
    split at h
    · exact isAddress_of_facebookOfMembers h
    · exact isAddress_of_googleOfMembers h
  · cases h

end Profile

end Accounts
