import Accounts.Base64
import Accounts.Digest.Sha3
import Accounts.Error
import Accounts.Text.Table
import Accounts.Text.Utf8

/-!
# Stored passwords

A password is stored as the base64 text of the SHA3-256 digest of password and salt, a period, and
the salt. A salt is the decimal text of a random number of 64 bits without its first ten digits.

Passwords, salts and what is stored are given by their code points, because there may be surrogates
among them that make no text. What is not a text has no digest.
-/

namespace Accounts.Password

/-- Stands between digest and salt. -/
def separator : Char := '.'

/-- The digits of a salt that are dropped. -/
def droppedDigits : Nat := 10

/-- The salt made of a random number. -/
def saltOf (random : Nat) : List Char := (Nat.toDigits 10 random).drop droppedDigits

def digest (password salt : List Nat) : Except Crash (List UInt8) :=
  match Text.Utf8.encodeCodes? (password ++ salt) with
  | some octets => .ok (Digest.Sha3.sha3_256 octets)
  | none => .error .surrogate

/-- The stored form of a password; a salt that holds the separator has none. -/
def hash (password salt : List Nat) : Except Crash String :=
  if salt.contains separator.toNat then .error (.value "Salt must not contain the separator")
  else (digest password salt).map fun octets =>
    String.ofList (Base64.encode octets ++ separator :: salt.map Char.ofNat)

/-- The digest and the salt of a stored form. -/
def parts? (stored : List Nat) : Option (List UInt8 × List Nat) :=
  match Text.splitOn separator.toNat stored with
  | [encoded, salt] => (Base64.decode? (encoded.map Char.ofNat)).map (·, salt)
  | _ => none

/-- Whether a password is the one that was stored. Where nothing in the right form is stored, the
credentials are wrong. -/
def verify (stored : Option (List Nat)) (password : List Nat) : Except Failure Bool :=
  match stored with
  | none | some [] => .error (.service (.unauthenticated .credentials))
  | some stored =>
    match parts? stored with
    | none => .error (.service (.unauthenticated .credentials))
    | some (expected, salt) =>
      ((digest password salt).map fun octets => expected == octets).mapError .crash

end Accounts.Password
