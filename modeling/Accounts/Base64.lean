/-!
# Base64

Six bits a character, three octets in four characters. Two readings are in use. The padded one takes
the standard alphabet, insists on the padding where a group is incomplete, takes no offence at some
behind a complete one, and ignores the bits of the last character that belong to no octet. The
unpadded one takes the alphabet that is safe in addresses; padding may be left out, and the spare
bits have to be zero, so that every octet sequence has one unpadded text.
-/

namespace Accounts.Base64

/-- The characters of values 62 and 63, the rest being common to all alphabets. -/
structure Alphabet where
  value62 : Char
  value63 : Char

def standard : Alphabet := ⟨'+', '/'⟩

def addressSafe : Alphabet := ⟨'-', '_'⟩

namespace Alphabet

def char (alphabet : Alphabet) (n : Nat) : Char :=
  if n < 26 then Char.ofNat ('A'.toNat + n)
  else if n < 52 then Char.ofNat ('a'.toNat + (n - 26))
  else if n < 62 then Char.ofNat ('0'.toNat + (n - 52))
  else if n = 62 then alphabet.value62
  else alphabet.value63

def value? (alphabet : Alphabet) (c : Char) : Option Nat :=
  if c.isUpper then some (c.toNat - 'A'.toNat)
  else if c.isLower then some (c.toNat - 'a'.toNat + 26)
  else if c.isDigit then some (c.toNat - '0'.toNat + 52)
  else if c = alphabet.value62 then some 62
  else if c = alphabet.value63 then some 63
  else none

end Alphabet

/-- The characters of an octet sequence, without padding. -/
def encodeUnpadded (alphabet : Alphabet) : List UInt8 → List Char
  | [] => []
  | [a] => [a.toNat / 4, a.toNat % 4 * 16].map alphabet.char
  | [a, b] => [a.toNat / 4, a.toNat % 4 * 16 + b.toNat / 16, b.toNat % 16 * 4].map alphabet.char
  | a :: b :: c :: rest =>
    [a.toNat / 4, a.toNat % 4 * 16 + b.toNat / 16, b.toNat % 16 * 4 + c.toNat / 64,
      c.toNat % 64].map alphabet.char ++ encodeUnpadded alphabet rest

def encode (octets : List UInt8) : List Char :=
  let text := encodeUnpadded standard octets
  text ++ List.replicate ((4 - text.length % 4) % 4) '='

/-- The octets of a sequence of six-bit values, with the spare bits of the last one. A single value
behind the last group of four is no octet. -/
def octetsOf? : List Nat → Option (List UInt8 × Nat)
  | [] => some ([], 0)
  | [_] => none
  | [a, b] => some ([(a * 4 + b / 16).toUInt8], b % 16)
  | [a, b, c] => some ([(a * 4 + b / 16).toUInt8, (b % 16 * 16 + c / 4).toUInt8], c % 4)
  | a :: b :: c :: d :: rest =>
    (octetsOf? rest).map fun (octets, spare) =>
      ((a * 4 + b / 16).toUInt8 :: (b % 16 * 16 + c / 4).toUInt8 :: (c % 4 * 64 + d).toUInt8 ::
        octets, spare)

/-- Splits the padding off the end. -/
def splitPadding (text : List Char) : List Char × Nat :=
  let body := (text.reverse.dropWhile (· == '=')).reverse
  (body, text.length - body.length)

/-- Whether so many padding characters may stand behind so many others. -/
def isPadding (length padding : Nat) : Bool :=
  if length % 4 = 0 then padding = 0 || length > 0 else padding = 4 - length % 4

def decode? (text : List Char) : Option (List UInt8) := do
  let (body, padding) := splitPadding text
  let values ← body.mapM standard.value?
  let (octets, _) ← octetsOf? values
  if isPadding body.length padding then some octets else none

/-- Reads unpadded text; padding is admitted where it is right. -/
def decodeUnpadded? (text : List Char) : Option (List UInt8) := do
  let (body, padding) := splitPadding text
  let values ← body.mapM addressSafe.value?
  let (octets, spare) ← octetsOf? values
  if spare = 0 ∧ (padding = 0 ∨ padding ≤ 2 ∧ text.length % 4 = 0) then some octets else none

end Accounts.Base64
