/-!
# Compact tables of characters

A property of characters is a set of intervals, and `Ranges.contains` tells whether it holds. The
intervals are written out in rows (`Ranges.ofRows`), or kept as text (`Ranges.ofText`): a list of
base-36 numerals in which every range is given by its distance from the one before and by its
length, so that a table stays short enough to read past.

Cutting a text at a separator (`splitOn`) lives here too: the tables are its first user, and every
format of the library that separates fields by one character is another.
-/

namespace Accounts.Text

/-- The fields of a text, or of its code points, between the occurrences of `sep`: never empty, `n`
separators give `n + 1` fields. -/
def splitOn [DecidableEq α] (sep : α) : List α → List (List α)
  | [] => [[]]
  | c :: rest =>
    match splitOn sep rest with
    | [] => [[c]]
    | field :: fields => if c = sep then [] :: field :: fields else (c :: field) :: fields

theorem splitOn_ne_nil [DecidableEq α] (sep : α) (text : List α) : splitOn sep text ≠ [] := by
  induction text with
  | nil => simp [splitOn]
  | cons c rest ih =>
    unfold splitOn
    split
    · simp
    · split <;> simp

/-- The value of a base-36 digit, letters being lower-case. -/
def digit36 (c : Char) : Nat :=
  if c.isDigit then c.toNat - '0'.toNat else c.toNat - 'a'.toNat + 10

/-- The value of an unsigned base-36 numeral. -/
def numeral36 (digits : List Char) : Nat :=
  digits.foldl (fun n c => 36 * n + digit36 c) 0

/-- The value of a base-36 numeral that may begin with a minus sign. -/
def signed36 : List Char → Int
  | '-' :: digits => -(numeral36 digits : Int)
  | digits => numeral36 digits

/-- The words of a table's text, which may run over several lines. -/
def tableWords (text : String) : List (List Char) :=
  ((splitOn '\n' text.toList).flatMap (splitOn ' ')).filter (! ·.isEmpty)

/-- A set of code points as a list of closed intervals. -/
structure Ranges where
  intervals : List (Nat × Nat)

namespace Ranges

/-- Reads "gap length" pairs: an interval starts `gap` after the end of the one before it and ends
`length` after its own start. -/
def ofPairs : Nat → List (List Char) → List (Nat × Nat)
  | next, gap :: length :: rest =>
    let low := next + numeral36 gap
    let high := low + numeral36 length
    (low, high) :: ofPairs (high + 1) rest
  | _, _ => []

def ofText (text : String) : Ranges := ⟨ofPairs 0 (tableWords text)⟩

/-- Takes the intervals themselves. -/
def ofRows (rows : List (List (Nat × Nat))) : Ranges := ⟨rows.flatten⟩

def contains (r : Ranges) (code : Nat) : Bool :=
  r.intervals.any fun (low, high) => low ≤ code && code ≤ high

end Ranges

end Accounts.Text
