import Accounts.Text.Blank
import Accounts.Text.Digit

/-!
# Integers written as text

The reader of integers in paths and queries. Digits of every script count, one underscore may stand
between two digits, a sign may lead, blanks around the numeral are ignored, and a numeral of more
than `maxDigits` digits is refused whatever its value.

A text of ASCII characters alone is trimmed by the ASCII blanks only; in any other text the blanks
of other scripts are read as spaces first.
-/

namespace Accounts.Text.IntegerText

/-- Longer numerals are refused. -/
def maxDigits : Nat := 4300

/-- A character as the numeral's grammar sees it: an ASCII character stands for itself, a blank for
a space, a digit of any script for its ASCII form. Anything else has no reading. -/
def asciiForm? (c : Char) : Option Char :=
  if c.toNat < 127 then some c
  else if isBlank c then some ' '
  else (digit? c).map fun d => Char.ofNat ('0'.toNat + d)

/-- The digits of a numeral in which single underscores may stand between digits. -/
def digits? : List Char → Option (List Nat)
  | [] => none
  | [c] => if c.isDigit then some [digitValue c] else none
  | c :: '_' :: rest => if c.isDigit then (digits? rest).map (digitValue c :: ·) else none
  | c :: rest => if c.isDigit then (digits? rest).map (digitValue c :: ·) else none

def ofDigits (digits : List Nat) : Nat := digits.foldl (fun n d => 10 * n + d) 0

def natural? (text : List Char) : Option Nat := do
  let digits ← digits? text
  if digits.length ≤ maxDigits then some (ofDigits digits) else none

def signed? : List Char → Option Int
  | '-' :: rest => (natural? rest).map fun n => -(n : Int)
  | '+' :: rest => (natural? rest).map Int.ofNat
  | text => (natural? text).map Int.ofNat

/-- The integer a text stands for, if any. -/
def parse? (text : List Char) : Option Int := do
  let ascii ← text.mapM asciiForm?
  signed? (trimBy isAsciiBlank ascii)

end Accounts.Text.IntegerText
