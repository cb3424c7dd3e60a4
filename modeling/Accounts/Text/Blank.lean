/-!
# Blank characters

Three sets of blanks are in use. `isWhiteSpace` is the Unicode property White_Space;
`isBlank` adds the four information separators U+001C to U+001F, and is what trimming means in this
library unless a format says otherwise; `isAsciiBlank` is the part of the first below U+0080.
-/

namespace Accounts.Text

/-- The blanks of ASCII: tab, line feed, vertical tab, form feed, carriage return and space. -/
def isAsciiBlank (c : Char) : Bool :=
  (9 ≤ c.toNat && c.toNat ≤ 13) || c == ' '

/-- The Unicode property White_Space. -/
def isWhiteSpace (c : Char) : Bool :=
  isAsciiBlank c ||
    [0x85, 0xA0, 0x1680, 0x2028, 0x2029, 0x202F, 0x205F, 0x3000].contains c.toNat ||
    (0x2000 ≤ c.toNat && c.toNat ≤ 0x200A)

/-- White space or an information separator. -/
def isBlank (c : Char) : Bool :=
  isWhiteSpace c || (0x1C ≤ c.toNat && c.toNat ≤ 0x1F)

def trimRightBy (p : Char → Bool) (text : List Char) : List Char :=
  (text.reverse.dropWhile p).reverse

/-- Drops the characters of a class at both ends. -/
def trimBy (p : Char → Bool) (text : List Char) : List Char :=
  trimRightBy p (text.dropWhile p)

/-- Drops the blanks at both ends. -/
def trim (text : List Char) : List Char := trimBy isBlank text

end Accounts.Text
