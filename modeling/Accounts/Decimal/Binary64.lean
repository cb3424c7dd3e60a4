/-!
# Binary floating point

Numbers with 53 significant bits, kept as mantissa and exponent so that every operation is exact
arithmetic on integers followed by one rounding. Every finite number is a whole multiple of
2⁻¹⁰⁷⁴ (`units`), which is what comparison and addition work on.
-/

namespace Accounts.Decimal

/-- A binary64 number. `finite s m e` stands for ±m · 2ᵉ. -/
inductive Binary64 where
  | nan
  | infinite (negative : Bool)
  | finite (negative : Bool) (mantissa : Nat) (exponent : Int)
  deriving DecidableEq, Repr

namespace Binary64

/-- The least exponent: subnormal numbers are multiples of 2⁻¹⁰⁷⁴. -/
def minExponent : Int := -1074

/-- The greatest exponent of a 53-bit mantissa. -/
def maxExponent : Int := 971

/-- ⌊num / den · 2⁻ᵉ⌋ and twice the remainder compared with the divisor. -/
def scaled (num den : Nat) (e : Int) : Nat × Ordering :=
  let n := if e < 0 then num * Nat.pow 2 (-e).toNat else num
  let d := if e < 0 then den else den * Nat.pow 2 e.toNat
  (n / d, compare (2 * (n % d)) d)

/-- The mantissa of num / den at exponent `e`, a half going to the even neighbour. -/
def roundAt (num den : Nat) (e : Int) : Nat :=
  match scaled num den e with
  | (q, .lt) => q
  | (q, .gt) => q + 1
  | (q, .eq) => if q % 2 = 0 then q else q + 1

/-- The number nearest to ±num / den. -/
def ofRatio (negative : Bool) (num den : Nat) : Binary64 :=
  if num = 0 then .finite negative 0 minExponent
  else
    let low := max minExponent ((num.log2 : Int) - den.log2 - 53)
    let e := if (scaled num den low).1 < Nat.pow 2 53 then low else low + 1
    let m := roundAt num den e
    let (m, e) := if m = Nat.pow 2 53 then (Nat.pow 2 52, e + 1) else (m, e)
    if e > maxExponent then .infinite negative else .finite negative m e

/-- The number nearest to ±digits · 10ᵉ. Exponents far outside the range are not computed with. -/
def ofDecimal (negative : Bool) (digits : Nat) (e : Int) : Binary64 :=
  let magnitude : Int := (digits.log2 : Int) * 30103 / 100000 + e
  if digits = 0 || magnitude < -400 then .finite negative 0 minExponent
  else if magnitude > 400 then .infinite negative
  else if e < 0 then ofRatio negative digits (Nat.pow 10 (-e).toNat)
  else ofRatio negative (digits * Nat.pow 10 e.toNat) 1

def ofInt (n : Int) : Binary64 := ofRatio (n < 0) n.natAbs 1

instance : OfNat Binary64 n := ⟨ofInt n⟩

/-- How many times 2⁻¹⁰⁷⁴ goes into one. -/
def unitsPerOne : Nat := Nat.pow 2 1074

def units (negative : Bool) (mantissa : Nat) (exponent : Int) : Int :=
  let size := mantissa * Nat.pow 2 (exponent - minExponent).toNat
  if negative then -(size : Int) else size

/-- The number nearest to a multiple of 2⁻¹⁰⁷⁴. -/
def ofUnits (n : Int) : Binary64 := ofRatio (n < 0) n.natAbs unitsPerOne

def isFinite : Binary64 → Bool
  | .finite .. => true
  | _ => false

def add : Binary64 → Binary64 → Binary64
  | .nan, _ | _, .nan => .nan
  | .infinite s, .infinite t => if s = t then .infinite s else .nan
  | .infinite s, _ | _, .infinite s => .infinite s
  | .finite s m e, .finite t n f =>
    if s && t && m = 0 && n = 0 then .finite true 0 minExponent
    else ofUnits (units s m e + units t n f)

instance : Add Binary64 := ⟨add⟩

/-- The order of numbers; nothing is less than, or greater than, `nan`. -/
def less : Binary64 → Binary64 → Bool
  | .nan, _ | _, .nan => false
  | .infinite s, .infinite t => s && !t
  | .infinite s, _ => s
  | _, .infinite t => !t
  | .finite s m e, .finite t n f => units s m e < units t n f

instance : LT Binary64 := ⟨fun x y => less x y = true⟩

instance (x y : Binary64) : Decidable (x < y) := inferInstanceAs (Decidable (less x y = true))

/-- The whole part of a finite number, rounded down, and whether there is a fraction. -/
def floor? : Binary64 → Option (Int × Bool)
  | .finite s m e =>
    let n := units s m e
    some (n / unitsPerOne, n % unitsPerOne != 0)
  | _ => none

def toInt? (x : Binary64) : Option Int :=
  match x.floor? with
  | some (n, false) => some n
  | _ => none

end Binary64

end Accounts.Decimal
