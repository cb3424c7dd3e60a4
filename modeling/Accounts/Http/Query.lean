import Accounts.Text.IntegerText
import Accounts.Text.Quoted
import Accounts.Text.Table
import Accounts.Text.Utf8

/-!
# Query strings

Names and values in the part of an address behind the question mark: fields are separated by "&", a
plus sign is a space, and octets may be written as a percent sign and two hexadecimal digits.
-/

namespace Accounts.Http

def hexValue? (c : Char) : Option Nat :=
  if c.isDigit then some (c.toNat - 48)
  else if 'a' ≤ c ∧ c ≤ 'f' then some (c.toNat - 87)
  else if 'A' ≤ c ∧ c ≤ 'F' then some (c.toNat - 55)
  else none

/-- The octets of a text; a percent sign without two digits behind it stands for itself. -/
def unescapeOctets : List Char → List UInt8
  | [] => []
  | '%' :: a :: b :: rest =>
    match hexValue? a, hexValue? b with
    | some x, some y => (x * 16 + y).toUInt8 :: unescapeOctets rest
    | _, _ => 0x25 :: unescapeOctets (a :: b :: rest)
  | c :: rest => Text.Utf8.encodeCode c.toNat ++ unescapeOctets rest

/-- The text of a field. Octets that are no UTF-8 are replaced. -/
def unescape (text : List Char) : List Char :=
  Text.Utf8.decodeLenient (unescapeOctets (text.map fun c => if c = '+' then ' ' else c))

/-- The fields of a query. Empty ones are left out; one without an equals sign has an empty
value. -/
def queryFields (query : List Char) : List (List Char × List Char) :=
  ((Text.splitOn '&' query).filter (! ·.isEmpty)).map fun field =>
    (unescape (field.takeWhile (· != '=')), unescape ((field.dropWhile (· != '=')).drop 1))

/-- The value of a field; the last one counts. -/
def queryValue? (query : List Char) (name : String) : Option (List Char) :=
  ((queryFields query).reverse.find? (·.1 == name.toList)).map (·.2)

inductive QueryProblem where
  | missing (name : String)
  | invalid (name : String)
  deriving DecidableEq, Repr

def QueryProblem.field : QueryProblem → String
  | missing name => name
  | invalid name => name

def QueryProblem.text : QueryProblem → String
  | missing name => s!"Missing query parameter \x60{name}\x60"
  | invalid name => s!"Invalid value provided for \x60{name}\x60"

def queryInt (query : List Char) (name : String) : Except QueryProblem Int :=
  match queryValue? query name with
  | none => .error (.missing name)
  | some value =>
    match Text.IntegerText.parse? value with
    | some n => .ok n
    | none => .error (.invalid name)

/-! ## Writing -/

/-- The characters that stand for themselves. -/
def isUnreserved (c : Char) : Bool :=
  c.isAlphanum || c == '-' || c == '.' || c == '_' || c == '~'

/-- A text as it is written in a field. -/
def escape (text : List Char) : List Char :=
  text.flatMap fun c =>
    if isUnreserved c then [c]
    else if c = ' ' then ['+']
    else (Text.Utf8.encodeCode c.toNat).flatMap fun octet =>
      '%' :: (Text.Quoted.hex 2 octet.toNat).map Char.toUpper

/-- The query of some fields. -/
def queryText (fields : List (String × String)) : List Char :=
  ['&'].intercalate
    (fields.map fun (name, value) => escape name.toList ++ '=' :: escape value.toList)

end Accounts.Http
