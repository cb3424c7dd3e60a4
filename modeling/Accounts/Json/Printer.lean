import Accounts.Decimal.Shortest
import Accounts.Json.Basic
import Accounts.Text.Quoted

/-!
# Writing JSON

The compact text of a value: no blanks, members in their order, and every character outside ASCII
written as escapes of its UTF-16 units.
-/

namespace Accounts.Json.Printer

open Text.Quoted (hex)

/-- A 16-bit unit as an escape. -/
def unitEscape (unit : Nat) : List Char := '\\' :: 'u' :: hex 4 unit

/-- One code point inside a string. -/
def escapeCode (code : Nat) : List Char :=
  if code = 0x22 then ['\\', '"']
  else if code = 0x5C then ['\\', '\\']
  else if code = 0x0A then ['\\', 'n']
  else if code = 0x0D then ['\\', 'r']
  else if code = 0x09 then ['\\', 't']
  else if code = 0x08 then ['\\', 'b']
  else if code = 0x0C then ['\\', 'f']
  else if 0x20 ≤ code ∧ code < 0x80 then [Char.ofNat code]
  else if code < 0x10000 then unitEscape code
  else
    unitEscape (0xD800 + (code - 0x10000) / 0x400) ++ unitEscape (0xDC00 + (code - 0x10000) % 0x400)

def string (value : JsonString) : List Char :=
  '"' :: value.codes.flatMap escapeCode ++ ['"']

def integer (n : Int) : List Char :=
  if n < 0 then '-' :: Nat.toDigits 10 n.natAbs else Nat.toDigits 10 n.natAbs

/-- A number that no JSON number can say is written as a name. -/
def number : Decimal.Binary64 → List Char
  | .nan => "NaN".toList
  | .infinite negative => (if negative then "-Infinity" else "Infinity").toList
  | x => Decimal.Shortest.text x

mutual

def value : Json → List Char
  | .null => "null".toList
  | .bool b => (if b then "true" else "false").toList
  | .int n => integer n
  | .float x => number x
  | .str s => string s
  | .arr items => '[' :: values items ++ [']']
  | .obj found => '{' :: members found ++ ['}']

def values : List Json → List Char
  | [] => []
  | [item] => value item
  | item :: rest => value item ++ ',' :: values rest

def members : List (JsonString × Json) → List Char
  | [] => []
  | [(name, item)] => string name ++ ':' :: value item
  | (name, item) :: rest => string name ++ ':' :: value item ++ ',' :: members rest

end

end Accounts.Json.Printer

namespace Accounts.Json

/-- The compact text of a value. -/
def print (json : Json) : List Char := Printer.value json

end Accounts.Json
