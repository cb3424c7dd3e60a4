import Accounts.Decimal.Binary64

/-!
# Shortest decimal text

The decimal text of a binary number: the fewest significant digits that read back as the number, and
among those the ones nearest to it. The text is positional when the decimal point stands within the
digits or near them, and has an exponent otherwise.
-/

namespace Accounts.Decimal.Shortest

def ratio (mantissa : Nat) (exponent : Int) : Nat × Nat :=
  if exponent < 0 then (mantissa, Nat.pow 2 (-exponent).toNat)
  else (mantissa * Nat.pow 2 exponent.toNat, 1)

/-- The number of digits before the decimal point; zero or negative for numbers below one tenth or
less. `fuel` bounds the number of zeros behind the point. -/
def pointOf (num den : Nat) : Nat → Int
  | 0 => 0
  | fuel + 1 =>
    if den ≤ num then (toString (num / den)).length
    else pointOf (10 * num) den fuel - 1

/-- The nearest decimal of `count` digits that reads back as the number, as digits and the power of
ten of the last one. -/
def ofCount? (mantissa : Nat) (exponent : Int) (point : Int) (count : Nat) : Option (Nat × Int) :=
  let (num, den) := ratio mantissa exponent
  let e := point - count
  let n := if e < 0 then num * Nat.pow 10 (-e).toNat else num
  let d := if e < 0 then den else den * Nat.pow 10 e.toNat
  let below := n / d
  let readsBack (digits : Nat) :=
    Binary64.ofDecimal false digits e == .finite false mantissa exponent
  let nearest := if 2 * (n % d) < d || (2 * (n % d) = d && below % 2 = 0) then below else below + 1
  let other := if nearest = below then below + 1 else below
  if readsBack nearest then some (nearest, e) else if readsBack other then some (other, e) else none

/-- The shortest decimal that reads back; seventeen digits always do. -/
def digits (mantissa : Nat) (exponent : Int) : Nat × Int :=
  let (num, den) := ratio mantissa exponent
  let point := pointOf num den 400
  let found := (List.range 17).findSome? fun i => ofCount? mantissa exponent point (i + 1)
  found.getD (mantissa, exponent)

/-- How numbers are written: where positional text ends, and the width of an exponent. -/
structure Style where
  positionalAbove : Int
  positionalUpTo : Int
  exponentWidth : Nat

/-- Numbers are positional while the point stands at most three zeros before and sixteen places
behind the first digit; an exponent has a sign and two digits. -/
def style : Style := ⟨-4, 16, 2⟩

def padLeft (width : Nat) (text : List Char) : List Char :=
  List.replicate (width - text.length) '0' ++ text

def natText (n : Nat) : List Char := Nat.toDigits 10 n

/-- The text of the digits with the point after the first `point` of them. -/
def layout (digits : List Char) (point : Int) : List Char :=
  if style.positionalAbove < point ∧ point ≤ style.positionalUpTo then
    if point ≤ 0 then '0' :: '.' :: List.replicate (-point).toNat '0' ++ digits
    else
      let whole := point.toNat
      if digits.length ≤ whole then
        digits ++ List.replicate (whole - digits.length) '0' ++ ['.', '0']
      else digits.take whole ++ '.' :: digits.drop whole
  else
    let exponent := point - 1
    let mark := if exponent < 0 then ['e', '-'] else ['e', '+']
    let fraction := if digits.length ≤ 1 then [] else '.' :: digits.drop 1
    digits.take 1 ++ fraction ++ mark ++
      padLeft style.exponentWidth (natText exponent.natAbs)

/-- Zeros at the end of the digits are not significant. -/
def trimZeros (digits : List Char) : List Char :=
  (digits.reverse.dropWhile (· == '0')).reverse

def text : Binary64 → List Char
  | .nan => ['n', 'a', 'n']
  | .infinite negative => (if negative then ['-'] else []) ++ ['i', 'n', 'f']
  | .finite negative mantissa exponent =>
    let sign := if negative then ['-'] else []
    if mantissa = 0 then sign ++ ['0', '.', '0']
    else
      let (value, e) := digits mantissa exponent
      let shown := natText value
      sign ++ layout (trimZeros shown) (shown.length + e)

end Accounts.Decimal.Shortest
