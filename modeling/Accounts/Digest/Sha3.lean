import Accounts.Digest.Sha2

/-!
# SHA3-256

The sponge of FIPS 202 over Keccak-f[1600] with a rate of 136 octets. The state is a list of
twenty-five lanes, lane `x + 5 y` standing at column `x` and row `y`.
-/

namespace Accounts.Digest.Sha3

abbrev Lanes := List UInt64

def lane (lanes : Lanes) (x y : Nat) : UInt64 := lanes.getD (x % 5 + 5 * (y % 5)) 0

/-- A state from the lane of each column and row. -/
def build (f : Nat → Nat → UInt64) : Lanes := (List.range 25).map fun i => f (i % 5) (i / 5)

def rotateLeft (word : UInt64) (n : Nat) : UInt64 :=
  if n = 0 then word else word <<< n.toUInt64 ||| word >>> (64 - n).toUInt64

def offsets : List Nat :=
  [0, 1, 62, 28, 27, 36, 44, 6, 55, 20, 3, 10, 43, 25, 39, 41, 45, 15, 21, 8, 18, 2, 61, 56, 14]

def roundConstants : List UInt64 :=
  [0x0000000000000001, 0x0000000000008082, 0x800000000000808A, 0x8000000080008000,
    0x000000000000808B, 0x0000000080000001, 0x8000000080008081, 0x8000000000008009,
    0x000000000000008A, 0x0000000000000088, 0x0000000080008009, 0x000000008000000A,
    0x000000008000808B, 0x800000000000008B, 0x8000000000008089, 0x8000000000008003,
    0x8000000000008002, 0x8000000000000080, 0x000000000000800A, 0x800000008000000A,
    0x8000000080008081, 0x8000000000008080, 0x0000000080000001, 0x8000000080008008]

/-- θ: every lane takes in the parities of two neighbouring columns. -/
def theta (a : Lanes) : Lanes :=
  let parity := (List.range 5).map fun x =>
    lane a x 0 ^^^ lane a x 1 ^^^ lane a x 2 ^^^ lane a x 3 ^^^ lane a x 4
  let effect := (List.range 5).map fun x =>
    parity.getD ((x + 4) % 5) 0 ^^^ rotateLeft (parity.getD ((x + 1) % 5) 0) 1
  build fun x y => lane a x y ^^^ effect.getD x 0

/-- ρ and π: lanes are rotated and moved. -/
def rhoPi (a : Lanes) : Lanes :=
  let rotated := List.zipWith rotateLeft a offsets
  build fun x y => lane rotated (x + 3 * y) x

/-- χ: every lane is changed by the next two of its row. -/
def chi (a : Lanes) : Lanes :=
  build fun x y => lane a x y ^^^ (~~~lane a (x + 1) y &&& lane a (x + 2) y)

/-- ι: the first lane takes in the round's constant. -/
def iota (constant : UInt64) (a : Lanes) : Lanes :=
  match a with
  | first :: rest => (first ^^^ constant) :: rest
  | [] => []

def permute (a : Lanes) : Lanes :=
  roundConstants.foldl (fun a constant => iota constant (chi (rhoPi (theta a)))) a

/-- Octets of a block. -/
def rate : Nat := 136

def laneOf (octets : Octets) : UInt64 :=
  octets.foldr (fun b word => word <<< 8 ||| b.toUInt64) 0

def octetsOf (word : UInt64) : Octets :=
  (List.range 8).map fun i => (word >>> (8 * i).toUInt64).toUInt8

/-- The message with the suffix of the hash functions, a whole number of blocks long. -/
def padded (message : Octets) : Octets :=
  let free := rate - message.length % rate
  if free = 1 then message ++ [0x86]
  else message ++ 0x06 :: List.replicate (free - 2) 0 ++ [0x80]

def absorb (state : Lanes) (block : Octets) : Lanes :=
  let words := (Sha2.chunks 8 17 block).map laneOf
  permute (List.zipWith (· ^^^ ·) state (words ++ List.replicate 8 0))

def sha3_256 (message : Octets) : Octets :=
  let blocks := Sha2.chunks rate message.length.succ (padded message)
  ((blocks.foldl absorb (List.replicate 25 0)).flatMap octetsOf).take 32

end Accounts.Digest.Sha3
