import Accounts.Digest.Hmac
import Accounts.Pattern.Basic
import Accounts.Text.Utf8

/-!
# Signing

The algorithms that tokens are signed with, by their registered names, and which secrets they take.
A secret that looks like a public or private key is refused, because a token signed with something
public could be forged by anybody.
-/

namespace Accounts.SessionToken

/-- A way to sign. `unsigned` leaves the signature empty. -/
inductive Algorithm where
  | hs256
  | hs384
  | hs512
  | unsigned
  deriving DecidableEq, Repr

namespace Algorithm

def name : Algorithm → String
  | hs256 => "HS256"
  | hs384 => "HS384"
  | hs512 => "HS512"
  | unsigned => "none"

def ofName? (text : String) : Option Algorithm :=
  [hs256, hs384, hs512, unsigned].find? (·.name == text)

def sign (algorithm : Algorithm) (key message : List UInt8) : List UInt8 :=
  match algorithm with
  | hs256 => Digest.hmac Digest.Sha2.sha256 key message
  | hs384 => Digest.hmac Digest.Sha2.sha384 key message
  | hs512 => Digest.hmac Digest.Sha2.sha512 key message
  | unsigned => []

end Algorithm

/-- The labels of keys in armoured form. -/
def armourLabels : List String :=
  ["CERTIFICATE", "TRUSTED CERTIFICATE", "PRIVATE KEY", "PUBLIC KEY", "ENCRYPTED PRIVATE KEY",
    "OPENSSH PRIVATE KEY", "DSA PRIVATE KEY", "RSA PRIVATE KEY", "RSA PUBLIC KEY", "EC PRIVATE KEY",
    "DH PARAMETERS", "NEW CERTIFICATE REQUEST", "CERTIFICATE REQUEST", "SSH2 PUBLIC KEY",
    "SSH2 ENCRYPTED PRIVATE KEY", "X509 CRL"]

open Pattern in
/-- A key in armour: a line that begins it, at least one character, and a line that ends it. -/
def armour (label : String) : Pattern :=
  let dash : Pattern := .one false [.range '-' '-', .range ' ' ' ']
  let line : Pattern := .seq (.repetition 0 (some 1) .greedy (char '\r')) (char '\n')
  let dashes : Pattern := literal "----".toList
  row [dashes, dash, literal "BEGIN ".toList, literal label.toList, dash, dashes, line,
    .repetition 1 none .lazy (.one true []), line, dashes, dash, literal "END ".toList,
    literal label.toList, dash, dashes]

/-- Whether one list stands somewhere inside another. -/
def isInside (part : List Char) : List Char → Bool
  | [] => part.isEmpty
  | c :: rest => part.isPrefixOf (c :: rest) || isInside part rest

/-- The key types of secure shells. -/
def shellKeyTypes : List String :=
  ["ssh-ed25519", "ssh-rsa", "ssh-dss", "ecdsa-sha2-nistp256", "ecdsa-sha2-nistp384",
    "ecdsa-sha2-nistp521"]

/-- A certificate of a secure shell: its type, blanks, and its body. -/
def isShellCertificate (secret : List Char) : Bool :=
  let kind := secret.takeWhile (! Text.isAsciiBlank ·)
  let rest := secret.dropWhile (! Text.isAsciiBlank ·)
  let body := rest.dropWhile fun c => c == ' ' || c == '\t'
  "-cert-v01@openssh.com".toList.reverse.isPrefixOf kind.reverse && body.length < rest.length &&
    !(body.head?.all Text.isAsciiBlank)

/-- A secret that is a public or private key in one of the usual forms. -/
def isKeyMaterial (secret : List Char) : Bool :=
  (isInside "----".toList secret &&
      armourLabels.any fun label => ((armour label).searchFrom 0 [] secret).isSome) ||
    shellKeyTypes.any (fun kind => isInside kind.toList secret) || isShellCertificate secret

/-- A secret, which is a text or octets. -/
inductive Secret where
  | text (value : String)
  | octets (value : List UInt8)
  deriving DecidableEq, Repr

instance : Coe String Secret := ⟨.text⟩

namespace Secret

/-- The characters of a secret, one for each octet if it is no text. -/
def chars : Secret → List Char
  | text value => value.toList
  | octets value => value.map fun octet => Char.ofNat octet.toNat

/-- The octets that are signed with. -/
def key : Secret → List UInt8
  | text value => Text.Utf8.encode value.toList
  | octets value => value

end Secret

/-- Whether an algorithm takes a secret. Only `unsigned` takes the empty text, and nothing else. -/
def Algorithm.takes (algorithm : Algorithm) (secret : Secret) : Bool :=
  match algorithm with
  | unsigned => secret == .text ""
  | _ => !secret.chars.isEmpty && !isKeyMaterial secret.chars

end Accounts.SessionToken
