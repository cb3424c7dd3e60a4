import Accounts.Digest.Sha2

/-!
# Keyed digests

HMAC (RFC 2104) over any hash function, and its three instances over SHA-2.
-/

namespace Accounts.Digest

/-- The keyed digest of a message; a key longer than a block is hashed first. -/
def hmacWith (hash : Octets → Octets) (blockSize : Nat) (key message : Octets) : Octets :=
  let short := if key.length > blockSize then hash key else key
  let block := short ++ List.replicate (blockSize - short.length) 0
  hash (block.map (· ^^^ 0x5C) ++ hash (block.map (· ^^^ 0x36) ++ message))

def hmac (v : Sha2.Variant w) (key message : Octets) : Octets :=
  hmacWith (Sha2.digest v) (Sha2.blockSize w) key message

end Accounts.Digest
