import Accounts.Decimal.Binary64
import Accounts.Table
import Accounts.Text.Utf8

/-!
# JSON values

Integers and floating-point numbers are kept apart, because a document that says `1` and one that
says `1.0` are different inputs. Strings are texts, or code points that hold an unpaired surrogate.
Members are a table: they keep the order of the document.
-/

namespace Accounts

/-- A string of a document. A sequence of code points that is not a text, because it holds a
surrogate, is kept as it came. Fields that may hold any string keep such a sequence too, though it
cannot be sent to anybody. -/
inductive JsonString where
  | text (value : String)
  | unpaired (codes : List Nat) (unpaired : ¬Text.IsText codes)
  deriving DecidableEq, Repr

namespace JsonString

def ofCodes (codes : List Nat) : JsonString :=
  if h : Text.IsText codes then .text (String.ofList (codes.map Char.ofNat))
  else .unpaired codes h

def codes : JsonString → List Nat
  | .text value => Text.codesOf value.toList
  | .unpaired codes _ => codes

def text? : JsonString → Option String
  | .text value => some value
  | .unpaired .. => none

def isText (s : JsonString) : Bool := s.text?.isSome

end JsonString

inductive Json where
  | null
  | bool (value : Bool)
  | int (value : Int)
  | float (value : Decimal.Binary64)
  | str (value : JsonString)
  | arr (items : List Json)
  | obj (members : List (JsonString × Json))
  deriving Repr

namespace Json

instance : Inhabited Json := ⟨.null⟩

def text (value : String) : Json := .str (.text value)

def record (members : List (String × Json)) : Json :=
  .obj (members.map fun (name, value) => (.text name, value))

/-- The value of a name among the members of an object. -/
def find? (members : List (JsonString × Json)) (name : String) : Option Json :=
  Table.get? members (.text name)

/-- The member of an object; a value of any other kind has none. -/
def member? (name : String) : Json → Option Json
  | .obj members => find? members name
  | _ => none

def asText? : Json → Option String
  | .str (.text value) => some value
  | _ => none

def asInt? : Json → Option Int
  | .int value => some value
  | _ => none

def asBool? : Json → Option Bool
  | .bool value => some value
  | _ => none

def asArray? : Json → Option (List Json)
  | .arr items => some items
  | _ => none

mutual

/-- Whether all strings of a value are texts, so that it can be sent. -/
def isTellable : Json → Bool
  | .str value => value.isText
  | .arr items => areTellable items
  | .obj members => membersTellable members
  | _ => true

def areTellable : List Json → Bool
  | [] => true
  | item :: rest => item.isTellable && areTellable rest

def membersTellable : List (JsonString × Json) → Bool
  | [] => true
  | (name, item) :: rest => name.isText && item.isTellable && membersTellable rest

end

/-- An optional value, absence being `null`. -/
def ofOption (f : α → Json) : Option α → Json
  | some value => f value
  | none => .null

/-- Whether a value counts as true where a truth value is wanted: nothing, zero and what is empty
do not. -/
def truthy : Json → Bool
  | .null => false
  | .bool value => value
  | .int value => value != 0
  | .float (.finite _ mantissa _) => mantissa != 0
  | .float _ => true
  | .str value => !value.codes.isEmpty
  | .arr items => !items.isEmpty
  | .obj members => !members.isEmpty

end Json

end Accounts
