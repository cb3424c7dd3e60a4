import Accounts.Json.Basic
import Accounts.Payload.Checked

/-!
# Reading fields

What values a field of each kind takes. Reading is lenient where a value has one clear meaning: a
whole number may come as text or as a floating-point number without a fraction, a truth value as 0,
1 or one of several words.
-/

namespace Accounts.Payload

open Text

abbrev Members := List (JsonString × Json)

/-- A reader of one value. -/
abbrev FieldReader (α : Type) := Json → Except Complaint α

/-- Any string, be it a text or not. -/
def anyString : FieldReader JsonString
  | .str value => .ok value
  | _ => .error .notText

/-- A string that has to be a text. -/
def plainText : FieldReader String
  | .str (.text value) => .ok value
  | .str (.unpaired ..) => .error .unpairedText
  | _ => .error .notText

/-- A text of at least `low` and, if there is a limit, at most `high` characters. -/
def textOf (low : Nat) (high : Option Nat) : FieldReader String := fun value => do
  let value ← plainText value
  if value.length < low then .error (.tooShort low)
  else match high with
    | some limit => if value.length > limit then .error (.tooLong limit) else .ok value
    | none => .ok value

/-- A private character in place of a surrogate. -/
def standIn (code : Nat) : Char :=
  if code.isValidChar then Char.ofNat code else Char.ofNat (code + 0x800)

/-- An e-mail address, in canonical form. A surrogate cannot be part of one; in the name in front of
an address it may stand, and is told where it may not, like a private character. -/
def emailAddress : FieldReader String
  | .str (.text value) => (Email.canonical value).mapError .email
  | .str (.unpaired codes _) =>
    (Email.canonical (String.ofList (codes.map standIn))).mapError .email
  | _ => .error .notText

/-- Drops a decimal point with nothing but zeros behind it. -/
def dropZeroFraction (numeral : List Char) : List Char :=
  match numeral.dropWhile (· != '.') with
  | '.' :: zeros =>
    if !zeros.isEmpty && zeros.all (· == '0') then numeral.takeWhile (· != '.') else numeral
  | _ => numeral

/-- Digits with single underscores between them, as digits alone. -/
def plainDigits? (numeral : List Char) : Option (List Char) :=
  let groups := splitOn '_' numeral
  if groups.all fun group => !group.isEmpty && group.all Char.isDigit then some groups.flatten
  else none

def maxDigits : Nat := 4300

/-- An integer written as text. -/
def integerOfText (value : String) : Except Complaint Int :=
  let numeral := trimBy isWhiteSpace value.toList
  let (negative, body) := match numeral with
    | '-' :: rest => (true, rest)
    | '+' :: rest => (false, rest)
    | rest => (false, rest)
  match plainDigits? (dropZeroFraction body) with
  | some digits =>
    if digits.length > maxDigits then .error .integerSize
    else
      let size : Int := digits.foldl (fun n c => 10 * n + (c.toNat - '0'.toNat)) 0
      .ok (if negative then -size else size)
  | none => .error .integerText

def integer : FieldReader Int
  | .int value => .ok value
  | .bool value => .ok (if value then 1 else 0)
  | .float value =>
    match value.floor? with
    | none => .error .notFinite
    | some (whole, fraction) =>
      if fraction then .error .integerFraction
      else if whole.natAbs < Nat.pow 2 63 then .ok whole
      else .error .integerSize
  | .str (.text value) => integerOfText value
  | .str (.unpaired ..) => .error .unpairedText
  | _ => .error .notInteger

def trueWords : List String := ["1", "on", "t", "true", "y", "yes"]

def falseWords : List String := ["0", "off", "f", "false", "n", "no"]

def boolean : FieldReader Bool
  | .bool value => .ok value
  | .int value =>
    if value = 1 then .ok true else if value = 0 then .ok false else .error .booleanValue
  | .float value =>
    match value.toInt? with
    | some 1 => .ok true
    | some 0 => .ok false
    | _ => .error .notBoolean
  | .str (.text value) =>
    let word := String.ofList (value.toList.map Char.toLower)
    if trueWords.contains word then .ok true
    else if falseWords.contains word then .ok false
    else .error .booleanValue
  | .str (.unpaired ..) => .error .unpairedText
  | _ => .error .notBoolean

/-- One of several options, known by their names. -/
def choice (options : List α) (name : α → String) : FieldReader α
  | .str (.text value) =>
    match options.find? (name · == value) with
    | some option => .ok option
    | none => .error (.notAmong (options.map name))
  | .str (.unpaired ..) => .error .unpairedText
  | _ => .error (.notAmong (options.map name))

/-- A point in time: a text, or a number of seconds or milliseconds. -/
def timestamp : FieldReader Timestamp
  | .int value =>
    if (Decimal.Binary64.ofInt value).isFinite then (Timestamp.ofInt value).mapError .timestamp
    else .error .notTimestamp
  | .float value => (Timestamp.ofFloat value).mapError .timestamp
  | .str (.text value) => (Timestamp.ofText value).mapError fun
    | .asTimestamp problem => .timestamp problem
    | .asDate problem => .timestampOrDate problem
  | .str (.unpaired ..) => .error .unpairedText
  | _ => .error .notTimestamp

def nullable (read : FieldReader α) : FieldReader (Option α)
  | .null => .ok none
  | value => (read value).map some

/-! ## Fields of an object -/

/-- A complaint of a reader is one about its field. -/
def check (name : String) : Except Complaint α → Checked α
  | .ok value => .ok value
  | .error complaint => .bad [⟨name, complaint⟩]

/-- A field that has to be there. -/
def required (members : Members) (name : String) (read : FieldReader α) : Checked α :=
  match Json.find? members name with
  | some value => check name (read value)
  | none => .bad [⟨name, .missing⟩]

/-- A field that has a value of its own if it is not there. -/
def optional (members : Members) (name : String) (read : FieldReader α) (absent : α) : Checked α :=
  match Json.find? members name with
  | some value => check name (read value)
  | none => .ok absent

/-- A field that may be left out, which is not the same as `null`. -/
def maybe (members : Members) (name : String) (read : FieldReader α) : Checked (Option α) :=
  match Json.find? members name with
  | some value => check name ((read value).map some)
  | none => .ok none

/-- The names of the members, if all of them are texts. -/
def names? (members : Members) : Option (List String) := members.mapM (·.1.text?)

/-- Complains about names that are no declared field. -/
def unknown : List String → Checked Unit
  | [] => .ok ()
  | names => .bad (names.map (⟨·, .extra⟩))

/-- Checks a form that takes no members but the declared ones. A name that is no text ends the
check, and is all that is complained about. -/
def closed (members : Members) (declared : List String) (checked : Checked α) : Checked α :=
  match names? members with
  | some names => checked <* unknown (names.filter fun name => !declared.contains name)
  | none => .bad [⟨"body", .unpairedText⟩]

end Accounts.Payload
