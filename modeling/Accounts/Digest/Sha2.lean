/-!
# SHA-2

SHA-256, SHA-384 and SHA-512 (FIPS 180-4) as one algorithm over words of `w` bits. The constants are
what the standard says they are: the first bits of the fractional parts of the roots of the first
primes.
-/

namespace Accounts.Digest

abbrev Octets := List UInt8

namespace Sha2

/-- The greatest `r < acc + 2ᵇ` with `rᵏ ≤ n` that is at least `acc`, found bit by bit. -/
def root (k n : Nat) : Nat → Nat → Nat
  | 0, acc => acc
  | b + 1, acc =>
    if Nat.pow (acc + Nat.pow 2 b) k ≤ n then root k n b (acc + Nat.pow 2 b) else root k n b acc

def isPrime (n : Nat) : Bool := 2 ≤ n && (List.range n).all fun d => d < 2 || n % d != 0

def primes : List Nat := (List.range 410).filter isPrime

/-- The first `w` bits of the fractional part of the `k`-th root of `p`. -/
def rootFraction (w k p : Nat) : BitVec w :=
  BitVec.ofNat w (root k (p * Nat.pow 2 (k * w)) (w + 8) 0)

/-- What tells the algorithms of the family apart. -/
structure Variant (w : Nat) where
  /-- Rounds of the compression function. -/
  rounds : Nat
  /-- The primes whose square roots give the initial state. -/
  initial : List Nat
  /-- The rotations of Σ₀, Σ₁ and the rotations and the shift of σ₀, σ₁. -/
  sum0 : Nat × Nat × Nat
  sum1 : Nat × Nat × Nat
  sigma0 : Nat × Nat × Nat
  sigma1 : Nat × Nat × Nat
  /-- Octets of the result. -/
  size : Nat

def blockSize (w : Nat) : Nat := 2 * w

/-- A word of big-endian octets. -/
def wordOf (w : Nat) (octets : Octets) : BitVec w :=
  octets.foldl (fun word b => word <<< 8 ||| BitVec.ofNat w b.toNat) 0

/-- The big-endian octets of a number, `count` of them. -/
def octetsOf (count n : Nat) : Octets :=
  (List.range count).map fun i => (n / Nat.pow 256 (count - 1 - i) % 256).toUInt8

/-- Cuts a list into pieces of `size`. -/
def chunks (size : Nat) : Nat → List α → List (List α)
  | 0, _ => []
  | fuel + 1, items =>
    if items.isEmpty then [] else items.take size :: chunks size fuel (items.drop size)

/-- The message with a one bit, zeros and its length in bits, a whole number of blocks long. -/
def padded (w : Nat) (message : Octets) : Octets :=
  let lengthOctets := w / 4
  let used := message.length + 1 + lengthOctets
  let zeros := (blockSize w - used % blockSize w) % blockSize w
  message ++ 0x80 :: List.replicate zeros 0 ++ octetsOf lengthOctets (8 * message.length)

def bigSum (r : Nat × Nat × Nat) (x : BitVec w) : BitVec w :=
  x.rotateRight r.1 ^^^ x.rotateRight r.2.1 ^^^ x.rotateRight r.2.2

def smallSigma (r : Nat × Nat × Nat) (x : BitVec w) : BitVec w :=
  x.rotateRight r.1 ^^^ x.rotateRight r.2.1 ^^^ x >>> r.2.2

/-- The message schedule, last word first. -/
def schedule (v : Variant w) : Nat → List (BitVec w) → List (BitVec w)
  | 0, words => words
  | n + 1, words =>
    let next := smallSigma v.sigma1 (words.getD 1 0) + words.getD 6 0 +
      smallSigma v.sigma0 (words.getD 14 0) + words.getD 15 0
    schedule v n (next :: words)

structure State (w : Nat) where
  (a b c d e f g h : BitVec w)

def State.ofList : List (BitVec w) → State w
  | [a, b, c, d, e, f, g, h] => ⟨a, b, c, d, e, f, g, h⟩
  | _ => ⟨0, 0, 0, 0, 0, 0, 0, 0⟩

def State.toList (s : State w) : List (BitVec w) := [s.a, s.b, s.c, s.d, s.e, s.f, s.g, s.h]

/-- One round with its constant and its word of the schedule. -/
def round (v : Variant w) (s : State w) (constantAndWord : BitVec w × BitVec w) : State w :=
  let choice := (s.e &&& s.f) ^^^ (~~~s.e &&& s.g)
  let majority := (s.a &&& s.b) ^^^ (s.a &&& s.c) ^^^ (s.b &&& s.c)
  let t1 := s.h + bigSum v.sum1 s.e + choice + constantAndWord.1 + constantAndWord.2
  let t2 := bigSum v.sum0 s.a + majority
  ⟨t1 + t2, s.a, s.b, s.c, s.d + t1, s.e, s.f, s.g⟩

def compress (v : Variant w) (constants : List (BitVec w)) (state : List (BitVec w))
    (block : Octets) : List (BitVec w) :=
  let words := (chunks (w / 8) 16 block).map (wordOf w)
  let all := (schedule v (v.rounds - 16) words.reverse).reverse
  let last := (constants.zip all).foldl (round v) (State.ofList state)
  List.zipWith (· + ·) state last.toList

def digest (v : Variant w) (message : Octets) : Octets :=
  let constants := (primes.take v.rounds).map (rootFraction w 3)
  let blocks := chunks (blockSize w) message.length.succ.succ (padded w message)
  let final := blocks.foldl (compress v constants) (v.initial.map (rootFraction w 2))
  (final.flatMap fun word => octetsOf (w / 8) word.toNat).take v.size

def sha256 : Variant 32 where
  rounds := 64
  initial := primes.take 8
  sum0 := (2, 13, 22)
  sum1 := (6, 11, 25)
  sigma0 := (7, 18, 3)
  sigma1 := (17, 19, 10)
  size := 32

def sha512 : Variant 64 where
  rounds := 80
  initial := primes.take 8
  sum0 := (28, 34, 39)
  sum1 := (14, 18, 41)
  sigma0 := (1, 8, 7)
  sigma1 := (19, 61, 6)
  size := 64

/-- SHA-384 is SHA-512 from another initial state, cut off. -/
def sha384 : Variant 64 := { sha512 with initial := (primes.drop 8).take 8, size := 48 }

end Sha2

end Accounts.Digest
