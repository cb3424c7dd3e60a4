import Accounts.Text.Utf8

/-!
# The encoding of a document

A document arrives as octets in UTF-8, UTF-16 or UTF-32 of either byte order. A byte order mark
decides; without one the places of the zero octets among the first four do. Code units that are
surrogates without a partner pass as code points of their own.
-/

namespace Accounts.Json

/-- The encodings of a document. `marked` ones begin with a byte order mark that is no part of the
text. -/
inductive Encoding where
  | utf8
  | utf8Marked
  | utf16 (bigEndian : Bool) (marked : Bool)
  | utf32 (bigEndian : Bool) (marked : Bool)
  deriving DecidableEq, Repr

namespace Encoding

/-- The encoding shown by the zero octets at the front. -/
def ofZeros : List UInt8 → Encoding
  | a :: b :: c :: d :: _ =>
    if a = 0 then if b = 0 then .utf32 true false else .utf16 true false
    else if b = 0 then if c = 0 ∧ d = 0 then .utf32 false false else .utf16 false false
    else .utf8
  | [a, b] =>
    if a = 0 then .utf16 true false else if b = 0 then .utf16 false false else .utf8
  | _ => .utf8

def detect : List UInt8 → Encoding
  | 0x00 :: 0x00 :: 0xFE :: 0xFF :: _ => .utf32 true true
  | 0xFF :: 0xFE :: 0x00 :: 0x00 :: _ => .utf32 false true
  | 0xFE :: 0xFF :: _ => .utf16 true true
  | 0xFF :: 0xFE :: _ => .utf16 false true
  | 0xEF :: 0xBB :: 0xBF :: _ => .utf8Marked
  | octets => ofZeros octets

/-- The 16-bit units of an octet sequence of even length. -/
def units16? (bigEndian : Bool) : List UInt8 → Option (List Nat)
  | [] => some []
  | [_] => none
  | a :: b :: rest =>
    (units16? bigEndian rest).map
      ((if bigEndian then a.toNat * 256 + b.toNat else b.toNat * 256 + a.toNat) :: ·)

/-- Joins surrogate pairs. -/
def pairUnits : List Nat → List Nat
  | high :: low :: rest =>
    if 0xD800 ≤ high ∧ high < 0xDC00 ∧ 0xDC00 ≤ low ∧ low < 0xE000 then
      (0x10000 + (high - 0xD800) * 0x400 + (low - 0xDC00)) :: pairUnits rest
    else high :: pairUnits (low :: rest)
  | units => units

/-- The 32-bit units of an octet sequence, all of them code points. -/
def units32? (bigEndian : Bool) : List UInt8 → Option (List Nat)
  | [] => some []
  | a :: b :: c :: d :: rest =>
    let code := if bigEndian then
        ((a.toNat * 256 + b.toNat) * 256 + c.toNat) * 256 + d.toNat
      else ((d.toNat * 256 + c.toNat) * 256 + b.toNat) * 256 + a.toNat
    if code < 0x110000 then (units32? bigEndian rest).map (code :: ·) else none
  | _ => none

/-- The code points of octets in an encoding. -/
def codes? (octets : List UInt8) : Encoding → Option (List Nat)
  | .utf8 => Text.Utf8.codes? octets
  | .utf8Marked => Text.Utf8.codes? (octets.drop 3)
  | .utf16 bigEndian marked =>
    (units16? bigEndian (if marked then octets.drop 2 else octets)).map pairUnits
  | .utf32 bigEndian marked => units32? bigEndian (if marked then octets.drop 4 else octets)

end Encoding

def codesOfOctets? (octets : List UInt8) : Option (List Nat) :=
  (Encoding.detect octets).codes? octets

end Accounts.Json
