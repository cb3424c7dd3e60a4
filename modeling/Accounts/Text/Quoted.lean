import Accounts.Text.Category
import Accounts.Text.Utf8

/-!
# Quoted text

A text shown inside a message: in single quotes, or in double quotes if it holds a single quote and
no double one. A backslash and the enclosing quote are escaped, line feeds, carriage returns and
tabs have letters, and every other character that cannot be printed is written by its code point.
A long text may be shown without its middle.
-/

namespace Accounts.Text.Quoted

def hexDigit (n : Nat) : Char := Char.ofNat (if n < 10 then '0'.toNat + n else 'a'.toNat + n - 10)

/-- The last `width` hexadecimal digits of a number. -/
def hex : Nat → Nat → List Char
  | 0, _ => []
  | width + 1, n => hex width (n / 16) ++ [hexDigit (n % 16)]

def quoteFor (text : List Char) : Char :=
  if text.contains '\'' && !text.contains '"' then '"' else '\''

/-- A code point by its number. -/
def byNumber (code : Nat) : List Char :=
  if code < 0x100 then '\\' :: 'x' :: hex 2 code
  else if code < 0x10000 then '\\' :: 'u' :: hex 4 code
  else '\\' :: 'U' :: hex 8 code

/-- One character inside quotes. -/
def escape (quote c : Char) : List Char :=
  if c = quote || c = '\\' then ['\\', c]
  else if c = '\n' then ['\\', 'n']
  else if c = '\r' then ['\\', 'r']
  else if c = '\t' then ['\\', 't']
  else if isPrintable c then [c]
  else byNumber c.toNat

def quoted (text : List Char) : List Char :=
  let quote := quoteFor text
  quote :: text.flatMap (escape quote) ++ [quote]

def quotedString (text : String) : String := String.ofList (quoted text.toList)

/-- Code points in quotes. One that is no character is written by its number. -/
def quotedCodes (codes : List Nat) : String :=
  let quote := quoteFor (codes.map Char.ofNat)
  let shown (code : Nat) : List Char :=
    if code.isValidChar then escape quote (Char.ofNat code) else byNumber code
  String.ofList (quote :: codes.flatMap shown ++ [quote])

/-- The beginning of a text, as far as it fits into so many octets. -/
def fitting : Nat → List Char → List Char
  | _, [] => []
  | room, c :: rest =>
    let width := (Utf8.encodeCode c.toNat).length
    if width ≤ room then c :: fitting (room - width) rest else []

/-- A text of more than fifty octets without its middle. -/
def shortened (text : List Char) : List Char :=
  if (Utf8.encode text).length ≤ 50 then text
  else fitting 25 text ++ "...".toList ++ (fitting 24 text.reverse).reverse

end Accounts.Text.Quoted
