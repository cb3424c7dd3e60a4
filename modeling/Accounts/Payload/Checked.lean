import Accounts.Email
import Accounts.Table
import Accounts.Timestamp.Reader

/-!
# Complaints about payloads

A payload is checked field by field, and every field that is wrong is complained about; so checking
collects complaints instead of stopping at the first. `Checked` is that collecting: what is built
from several checked parts carries the complaints of all of them, in order.
-/

namespace Accounts.Payload

inductive Complaint where
  | missing
  | extra
  | notText
  /-- The text holds an unpaired surrogate. -/
  | unpairedText
  | tooShort (length : Nat)
  | tooLong (length : Nat)
  | notInteger
  | integerText
  | integerFraction
  | notFinite
  | integerSize
  | notBoolean
  | booleanValue
  | notNumber
  | numberText
  | notAmong (options : List String)
  | notTimestamp
  | timestamp (problem : Timestamp.Problem)
  | timestampOrDate (problem : Timestamp.Problem)
  | email (problem : Email.Problem)
  | notModel (model : String)
  deriving DecidableEq, Repr

/-- Options in quotes, the last two joined by "or". -/
def optionsText : List String → String
  | [] => ""
  | [a] => s!"'{a}'"
  | [a, b] => s!"'{a}' or '{b}'"
  | a :: rest => s!"'{a}', " ++ optionsText rest

def characters (n : Nat) : String := if n = 1 then "1 character" else s!"{n} characters"

def Complaint.text : Complaint → String
  | missing => "Field required"
  | extra => "Extra inputs are not permitted"
  | notText => "Input should be a valid string"
  | unpairedText =>
    "Input should be a valid string, unable to parse raw data as a unicode string"
  | tooShort length => s!"String should have at least {characters length}"
  | tooLong length => s!"String should have at most {characters length}"
  | notInteger => "Input should be a valid integer"
  | integerText => "Input should be a valid integer, unable to parse string as an integer"
  | integerFraction => "Input should be a valid integer, got a number with a fractional part"
  | notFinite => "Input should be a finite number"
  | integerSize => "Unable to parse input string as an integer, exceeded maximum size"
  | notBoolean => "Input should be a valid boolean"
  | booleanValue => "Input should be a valid boolean, unable to interpret input"
  | notNumber => "Input should be a valid number"
  | numberText => "Input should be a valid number, unable to parse string as a number"
  | notAmong options => "Input should be " ++ optionsText options
  | notTimestamp => "Input should be a valid datetime"
  | timestamp problem => "Input should be a valid datetime, " ++ problem.text
  | timestampOrDate problem => "Input should be a valid datetime or date, " ++ problem.text
  | email problem => "value is not a valid email address: " ++ problem.text
  | notModel model => s!"Input should be a valid dictionary or instance of {model}"

structure FieldComplaint where
  field : String
  complaint : Complaint
  deriving DecidableEq, Repr

/-- A value, or complaints about what it was to be built from. -/
inductive Checked (α : Type) where
  | ok (value : α)
  | bad (complaints : List FieldComplaint)
  deriving Repr

namespace Checked

def complaints : Checked α → List FieldComplaint
  | ok _ => []
  | bad complaints => complaints

/-- Puts two checked parts together. -/
def combine (f : α → β → γ) : Checked α → Checked β → Checked γ
  | ok a, ok b => ok (f a b)
  | a, b => bad (a.complaints ++ b.complaints)

instance : Applicative Checked where
  pure := ok
  seq f x := combine (fun f x => f x) f (x ())

def toExcept : Checked α → Except (List FieldComplaint) α
  | ok value => .ok value
  | bad complaints => .error complaints

end Checked

/-- Complaints grouped by field, in the order in which the fields first appear. -/
def grouped (complaints : List FieldComplaint) : Table String (List String) :=
  complaints.foldl
    (fun table c => table.put c.field ((table.get? c.field).getD [] ++ [c.complaint.text])) []

end Accounts.Payload
