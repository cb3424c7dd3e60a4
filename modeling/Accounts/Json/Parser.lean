import Accounts.Json.Basic
import Accounts.Json.Encoding

/-!
# Reading JSON

A recursive-descent reader over code points. It accepts the grammar of RFC 8259 and the three names
`NaN`, `Infinity` and `-Infinity`; a repeated member name keeps its first place and takes the last
value. Values may be nested as deep as the reader goes (`Depth`); what is nested deeper is a failure
of its own, which is found before any mistake further on in the document.
-/

namespace Accounts.Json

inductive ParseError where
  /-- The text is no JSON document. -/
  | malformed
  /-- Arrays and objects are nested too deeply. -/
  | tooDeep
  deriving DecidableEq, Repr

/-- How deep values may be nested for a reader. The reader goes down on the stack of the interpreter
and stops where that ends, so the number of levels depends on the interpreter and on what its stack
holds already. All readers go down some hundreds of levels, and none goes down tens of thousands. -/
structure Depth where
  levels : Nat
  least : 200 ≤ levels
  bounded : levels < 30000
  deriving DecidableEq, Repr

/-- The depth of an interpreter that has not been told another. -/
def Depth.usual : Depth := ⟨1000, by decide, by decide⟩

namespace Parser

/-- Integers of more digits are refused. -/
def maxDigits : Nat := 4300

abbrev Codes := List Nat

def isBlank (code : Nat) : Bool := code = 0x20 || code = 0x09 || code = 0x0A || code = 0x0D

def skipBlanks (codes : Codes) : Codes := codes.dropWhile isBlank

def isDigit (code : Nat) : Bool := 0x30 ≤ code && code ≤ 0x39

def hex? (code : Nat) : Option Nat :=
  if isDigit code then some (code - 0x30)
  else if 0x61 ≤ code && code ≤ 0x66 then some (code - 0x61 + 10)
  else if 0x41 ≤ code && code ≤ 0x46 then some (code - 0x41 + 10)
  else none

def hex4? (a b c d : Nat) : Option Nat := do
  some (((← hex? a) * 16 + (← hex? b)) * 256 + (← hex? c) * 16 + (← hex? d))

/-- The character of a one-letter escape. -/
def escape? (code : Nat) : Option Nat :=
  match Char.ofNat code with
  | '"' => some 0x22
  | '\\' => some 0x5C
  | '/' => some 0x2F
  | 'b' => some 0x08
  | 'f' => some 0x0C
  | 'n' => some 0x0A
  | 'r' => some 0x0D
  | 't' => some 0x09
  | _ => none

/-- A high and a low surrogate in escapes of their own are one code point. -/
def joinSurrogates? (high low : Nat) : Option Nat :=
  if 0xD800 ≤ high && high < 0xDC00 && 0xDC00 ≤ low && low < 0xE000 then
    some (0x10000 + (high - 0xD800) * 0x400 + (low - 0xDC00))
  else none

/-- The pair of escapes at the front of `codes` (from behind the first backslash and "u" on), if it
is one of surrogates. -/
def surrogatePair? : Codes → Option Nat
  | a :: b :: c :: d :: 0x5C :: 0x75 :: e :: f :: g :: h :: _ => do
    joinSurrogates? (← hex4? a b c d) (← hex4? e f g h)
  | _ => none

/-- Puts a code point in front of what a string goes on with. -/
def consCode (code : Nat) : Except ParseError (Codes × Codes) → Except ParseError (Codes × Codes)
  | .ok (codes, rest) => .ok (code :: codes, rest)
  | .error e => .error e

/-- A string from behind its opening quote on. `skip` code points are still part of an escape that
has been read already. -/
def stringBody : Nat → Codes → Except ParseError (Codes × Codes)
  | _, [] => .error .malformed
  | skip + 1, _ :: rest => stringBody skip rest
  | 0, 0x22 :: rest => .ok ([], rest)
  | 0, 0x5C :: rest =>
    match rest with
    | 0x75 :: escape =>
      match surrogatePair? escape, escape with
      | some code, _ => consCode code (stringBody 11 rest)
      | none, a :: b :: c :: d :: _ =>
        match hex4? a b c d with
        | some code => consCode code (stringBody 5 rest)
        | none => .error .malformed
      | none, _ => .error .malformed
    | letter :: _ =>
      match escape? letter with
      | some code => consCode code (stringBody 1 rest)
      | none => .error .malformed
    | [] => .error .malformed
  | 0, code :: rest =>
    if code < 0x20 then .error .malformed else consCode code (stringBody 0 rest)

def ofDigits (digits : Codes) : Nat := digits.foldl (fun n code => 10 * n + (code - 0x30)) 0

/-- The whole part of a number: a zero, or digits that do not begin with one. -/
def wholePart : Codes → Option (Codes × Codes)
  | 0x30 :: rest => some ([0x30], rest)
  | codes =>
    let digits := codes.takeWhile isDigit
    if digits.isEmpty then none else some (digits, codes.dropWhile isDigit)

/-- The digits behind a decimal point, if a point with digits follows. -/
def fractionPart : Codes → Codes × Codes
  | 0x2E :: rest =>
    let digits := rest.takeWhile isDigit
    if digits.isEmpty then ([], 0x2E :: rest) else (digits, rest.dropWhile isDigit)
  | codes => ([], codes)

def exponentPart (codes : Codes) : Option Int × Codes :=
  match codes with
  | mark :: rest =>
    if mark = 0x65 || mark = 0x45 then
      let (negative, body) := match rest with
        | 0x2D :: more => (true, more)
        | 0x2B :: more => (false, more)
        | more => (false, more)
      let digits := body.takeWhile isDigit
      if digits.isEmpty then (none, codes)
      else
        let size : Int := ofDigits digits
        (some (if negative then -size else size), body.dropWhile isDigit)
    else (none, codes)
  | [] => (none, [])

/-- A number from behind its sign on. -/
def number (negative : Bool) (codes : Codes) : Except ParseError (Json × Codes) :=
  match wholePart codes with
  | none => .error .malformed
  | some (whole, rest) =>
    let (fraction, rest) := fractionPart rest
    let (exponent, rest) := exponentPart rest
    if fraction.isEmpty && exponent.isNone then
      if whole.length ≤ maxDigits then
        let size : Int := ofDigits whole
        .ok (.int (if negative then -size else size), rest)
      else .error .malformed
    else
      .ok (.float (Decimal.Binary64.ofDecimal negative (ofDigits (whole ++ fraction))
        (exponent.getD 0 - fraction.length)), rest)

def dropWord? (word : String) (codes : Codes) : Option Codes :=
  let wanted := word.toList.map Char.toNat
  if wanted.isPrefixOf codes then some (codes.drop wanted.length) else none

/-- The values that are written as a name. -/
def names : List (String × Json) :=
  [("null", .null), ("true", .bool true), ("false", .bool false), ("NaN", .float .nan),
    ("Infinity", .float (.infinite false)), ("-Infinity", .float (.infinite true))]

/-- A value that is neither a string nor a container. -/
def scalar (codes : Codes) : Except ParseError (Json × Codes) :=
  match names.findSome? fun (word, value) => (dropWord? word codes).map (value, ·) with
  | some found => .ok found
  | none =>
    match codes with
    | 0x2D :: rest => number true rest
    | _ => number false codes

mutual

/-- A value; `depth` more levels of nesting are admitted. -/
def value (depth : Nat) : Nat → Codes → Except ParseError (Json × Codes)
  | 0, _ => .error .malformed
  | _ + 1, 0x22 :: rest => do
    let (codes, rest) ← stringBody 0 rest
    .ok (.str (JsonString.ofCodes codes), rest)
  | fuel + 1, 0x5B :: rest =>
    match depth with
    | 0 => .error .tooDeep
    | depth + 1 =>
      match skipBlanks rest with
      | 0x5D :: rest => .ok (.arr [], rest)
      | rest => do
        let (items, rest) ← elements depth fuel rest
        .ok (.arr items, rest)
  | fuel + 1, 0x7B :: rest =>
    match depth with
    | 0 => .error .tooDeep
    | depth + 1 =>
      match skipBlanks rest with
      | 0x7D :: rest => .ok (.obj [], rest)
      | rest => do
        let (found, rest) ← members depth fuel [] rest
        .ok (.obj found, rest)
  | _ + 1, codes => scalar codes

def elements (depth : Nat) : Nat → Codes → Except ParseError (List Json × Codes)
  | 0, _ => .error .malformed
  | fuel + 1, codes => do
    let (item, rest) ← value depth fuel codes
    match skipBlanks rest with
    | 0x2C :: rest =>
      let (items, rest) ← elements depth fuel (skipBlanks rest)
      .ok (item :: items, rest)
    | 0x5D :: rest => .ok ([item], rest)
    | _ => .error .malformed

/-- The members of an object up to its end, put behind those in `found`. -/
def members (depth : Nat) : Nat → List (JsonString × Json) → Codes →
    Except ParseError (List (JsonString × Json) × Codes)
  | fuel + 1, found, 0x22 :: rest => do
    let (name, rest) ← stringBody 0 rest
    match skipBlanks rest with
    | 0x3A :: rest =>
      let (item, rest) ← value depth fuel (skipBlanks rest)
      let found := Table.put found (JsonString.ofCodes name) item
      match skipBlanks rest with
      | 0x2C :: rest => members depth fuel found (skipBlanks rest)
      | 0x7D :: rest => .ok (found, rest)
      | _ => .error .malformed
    | _ => .error .malformed
  | _, _, _ => .error .malformed

end

end Parser

/-- The value of a document's code points. Of any two calls of the reader in a row one takes a code
point off the input, so twice the length of the input is fuel enough. -/
def parse (depth : Depth) (codes : List Nat) : Except ParseError Json := do
  let (result, rest) ← Parser.value depth.levels (2 * codes.length + 2) (Parser.skipBlanks codes)
  if (Parser.skipBlanks rest).isEmpty then .ok result else .error .malformed

def parseOctets (depth : Depth) (octets : List UInt8) : Except ParseError Json :=
  match codesOfOctets? octets with
  | some codes => parse depth codes
  | none => .error .malformed

end Accounts.Json
