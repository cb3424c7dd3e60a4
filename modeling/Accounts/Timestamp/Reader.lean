import Accounts.Text.Utf8
import Accounts.Timestamp.Basic

/-!
# Reading timestamps

Three forms are read. A date with a clock reading may leave out the seconds, may have a fraction of
them (digits beyond microseconds are dropped) and an offset. A date alone is the midnight it begins
with. A number is a distance from the start of 1970 in universal time: seconds up to a watershed,
milliseconds beyond it.

Texts are read octet by octet, which shows in the length that is asked of a date.
-/

namespace Accounts.Timestamp

inductive Problem where
  | tooShort
  | yearCharacter
  | monthCharacter
  | dayCharacter
  | separator
  | monthRange
  | dayRange
  | extraCharacters
  /-- A number that leads beyond year 9999. -/
  | tooLate
  /-- A number that leads before year 0. -/
  | tooEarly
  | notANumber
  /-- The calendar has a year 0, which no timestamp can show. -/
  | yearZero
  deriving DecidableEq, Repr

namespace Problem

def text : Problem → String
  | tooShort => "input is too short"
  | yearCharacter => "invalid character in year"
  | monthCharacter => "invalid character in month"
  | dayCharacter => "invalid character in day"
  | separator => "invalid date separator, expected `-`"
  | monthRange => "month value is outside expected range of 1-12"
  | dayRange => "day value is outside expected range"
  | extraCharacters => "unexpected extra characters at the end of the input"
  | tooLate => "dates after 9999 are not supported as unix timestamps"
  | tooEarly => "dates before 0000 are not supported as unix timestamps"
  | notANumber => "NaN values not permitted"
  | yearZero => "year 0 is out of range"

end Problem

namespace Reader

/-- The octets of a text as characters, one each. -/
abbrev Octets := List Char

def two? (a b : Char) : Option Nat :=
  if a.isDigit && b.isDigit then some ((a.toNat - 48) * 10 + (b.toNat - 48)) else none

/-- Two decimal digits below a bound. -/
def twoBelow? (bound : Nat) (a b : Char) : Option Nat :=
  (two? a b).filter (· < bound)

/-- A date at the front; the rest of the text follows it. Returns days since 1970 and the year. -/
def date : Octets → Except Problem (Int × Nat × Octets)
  | y1 :: y2 :: y3 :: y4 :: s1 :: m1 :: m2 :: s2 :: d1 :: d2 :: rest => do
    let some century := two? y1 y2 | .error .yearCharacter
    let some decade := two? y3 y4 | .error .yearCharacter
    if s1 != '-' then .error .separator
    let some month := two? m1 m2 | .error .monthCharacter
    if s2 != '-' then .error .separator
    let some day := two? d1 d2 | .error .dayCharacter
    let year := century * 100 + decade
    if month < 1 || month > 12 then .error .monthRange
    if day < 1 || day > daysInMonth year month then .error .dayRange
    .ok (daysOfDate year month day, year, rest)
  | _ => .error .tooShort

/-- The first six digits of a fraction as microseconds. -/
def fractionMicros (digits : Octets) : Nat :=
  ((digits ++ List.replicate 6 '0').take 6).foldl (fun n c => 10 * n + (c.toNat - 48)) 0

/-- Seconds with an optional fraction behind a colon; nothing is zero seconds. Returns
microseconds. -/
def seconds? : Octets → Option (Nat × Octets)
  | ':' :: a :: b :: rest => do
    let second ← twoBelow? 60 a b
    match rest with
    | mark :: more =>
      if mark = '.' || mark = ',' then
        let digits := more.takeWhile Char.isDigit
        if digits.isEmpty then none
        else some (second * 1000000 + fractionMicros digits, more.dropWhile Char.isDigit)
      else some (second * 1000000, rest)
    | [] => some (second * 1000000, [])
  | ':' :: _ => none
  | rest => some (0, rest)

/-- The distance from universal time that the rest of a text gives, in seconds. -/
def offset? : Octets → Option (Option Int)
  | [] => some none
  | ['Z'] | ['z'] => some (some 0)
  | text =>
    let signed : Option (Int × Octets) := match text with
      | '+' :: body => some (1, body)
      | '-' :: body => some (-1, body)
      | '\u00E2' :: '\u0088' :: '\u0092' :: body => some (-1, body)
      | _ => none
    match signed with
    | some (sign, [a, b, ':', c, d]) | some (sign, [a, b, c, d]) => do
      let hours ← twoBelow? 24 a b
      let minutes ← twoBelow? 60 c d
      some (some (sign * (hours * 3600 + minutes * 60 : Nat)))
    | _ => none

/-- A clock reading behind a date: microseconds of the day and the offset. -/
def clock? : Octets → Option (Nat × Option Int)
  | mark :: a :: b :: ':' :: c :: d :: rest => do
    if !(mark = 'T' || mark = 't' || mark = ' ' || mark = '_') then none
    let hours ← twoBelow? 24 a b
    let minutes ← twoBelow? 60 c d
    let (micros, rest) ← seconds? rest
    let offset ← offset? rest
    some ((hours * 3600 + minutes * 60) * 1000000 + micros, offset)
  | _ => none

/-- Years below 1 cannot be shown. -/
def shown (t : Timestamp) : Except Problem Timestamp :=
  if minReading ≤ t.reading then .ok t else .error .yearZero

/-- Greater numbers count milliseconds. -/
def watershed : Int := 20000000000

/-- Numbers that are counted with have at most 63 bits. -/
def maxCount : Int := Nat.pow 2 63 - 1

/-- The moment a number of seconds or milliseconds after the start of 1970, and `micros`
microseconds. -/
def ofCount (count : Int) (micros : Int) : Except Problem Timestamp :=
  if count < -maxCount then .error .tooEarly
  else
    let base := if count.natAbs ≤ watershed then count * microsPerSecond else count * 1000
    let reading := base + micros
    if reading / microsPerSecond > 253402300799 then .error .tooLate
    else if reading / microsPerSecond < -62167219200 then .error .tooEarly
    else shown (utc reading)

/-- The moment of a count with a fraction. The fraction's size is added to the count rounded
down. -/
def ofFloat : Decimal.Binary64 → Except Problem Timestamp
  | .nan => .error .notANumber
  | .infinite negative => .error (if negative then .tooEarly else .tooLate)
  | .finite negative mantissa exponent =>
    let n := (Decimal.Binary64.units negative mantissa exponent).natAbs
    let fraction := Decimal.Binary64.ofRatio false (n % Decimal.Binary64.unitsPerOne * 1000000)
      Decimal.Binary64.unitsPerOne
    let micros : Int := match (fraction + Decimal.Binary64.ofRatio false 1 2).floor? with
      | some (whole, _) => whole
      | none => 0
    match (Decimal.Binary64.finite negative mantissa exponent).floor? with
    | some (whole, _) => ofCount whole micros
    | none => .error .notANumber

def ofDigits (digits : Octets) : Nat := digits.foldl (fun n c => 10 * n + (c.toNat - 48)) 0

/-- A decimal exponent that ends the text. -/
def exponent? : Octets → Option Int
  | [] => some 0
  | mark :: rest =>
    if mark = 'e' || mark = 'E' then
      let (negative, digits) := match rest with
        | '-' :: more => (true, more)
        | '+' :: more => (false, more)
        | more => (false, more)
      if digits.isEmpty || !digits.all Char.isDigit then none
      else some (if negative then -(ofDigits digits : Int) else ofDigits digits)
    else none

/-- A text that is a number altogether. Whole numbers have at most 63 bits; a number with a point
may have an exponent. -/
def number? (text : Octets) : Option (Except Problem Timestamp) :=
  let (negative, body) := match text with
    | '-' :: more => (true, more)
    | '+' :: more => (false, more)
    | more => (false, more)
  let whole := body.takeWhile Char.isDigit
  match body.dropWhile Char.isDigit with
  | [] =>
    if whole.isEmpty then none
    else
      let n : Int := ofDigits whole
      let count := if negative then -n else n
      if n ≤ maxCount then some (ofCount count 0) else none
  | '.' :: rest =>
    let fraction := rest.takeWhile Char.isDigit
    if whole.isEmpty && fraction.isEmpty then none
    else do
      let exponent ← exponent? (rest.dropWhile Char.isDigit)
      some (ofFloat (Decimal.Binary64.ofDecimal negative (ofDigits (whole ++ fraction))
        (exponent - fraction.length)))
  | _ => none

end Reader

/-- Why a text is no timestamp; a text that is not read as a date with a clock reading is reported
on as a date. -/
inductive TextProblem where
  | asTimestamp (problem : Problem)
  | asDate (problem : Problem)
  deriving DecidableEq, Repr

open Reader in
def ofText (text : String) : Except TextProblem Timestamp :=
  let octets : Octets := (Text.Utf8.encode text.toList).map fun b => Char.ofNat b.toNat
  match date octets with
  | .ok (days, _, []) => (shown ⟨days * microsPerDay, none⟩).mapError .asTimestamp
  | .ok (days, _, rest) =>
    match clock? rest with
    | some (micros, offset) => (shown ⟨days * microsPerDay + micros, offset⟩).mapError .asTimestamp
    | none => .error (.asDate .extraCharacters)
  | .error problem =>
    match number? octets with
    | some (.ok t) => .ok t
    | some (.error .yearZero) => .error (.asTimestamp .yearZero)
    | some (.error numberProblem) => .error (.asDate numberProblem)
    | none => .error (.asDate problem)

def ofInt (count : Int) : Except Problem Timestamp :=
  if Reader.maxCount < count then .error .tooLate else Reader.ofCount count 0

/-- Reads a number with a fraction. -/
def ofFloat (count : Decimal.Binary64) : Except Problem Timestamp := Reader.ofFloat count

end Accounts.Timestamp
