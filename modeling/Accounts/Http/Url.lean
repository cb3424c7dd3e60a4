import Accounts.Http.Query
import Accounts.IpAddress

/-!
# Addresses

Taking addresses apart. `Url.pathOf` splits any text leniently, the way in which reports are
inspected; `Url.target` splits the address of a service that is going to be called.
-/

namespace Accounts.Http.Url

inductive Problem where
  | brackets
  | futureAddress
  | v4InBrackets
  | notAnAddress (host : List Char)
  /-- The authority holds characters that could be taken for separators. -/
  | lookalike (authority : List Char)
  deriving DecidableEq, Repr

def Problem.text : Problem → String
  | brackets => "Invalid IPv6 URL"
  | futureAddress => "IPvFuture address is invalid"
  | v4InBrackets => "An IPv4 address cannot be in brackets"
  | notAnAddress host =>
    s!"{IpAddress.shown host} does not appear to be an IPv4 or IPv6 address"
  | lookalike authority =>
    s!"netloc '{String.ofList authority}' contains invalid characters under NFKC normalization"

/-- A scheme and the rest of an address. A scheme begins with a letter and ends with a colon. -/
def splitScheme (text : List Char) : List Char × List Char :=
  let scheme := text.takeWhile (· != ':')
  let rest := text.dropWhile (· != ':')
  if !rest.isEmpty && scheme.head?.any Char.isAlpha &&
      scheme.all fun c => c.isAlphanum || c == '+' || c == '-' || c == '.' then
    (scheme.map Char.toLower, rest.drop 1)
  else ([], text)

/-- The authority behind two slashes, if there is one, and what follows. -/
def splitAuthority : List Char → Option (List Char) × List Char
  | '/' :: '/' :: rest =>
    let ends (c : Char) : Bool := c == '/' || c == '?' || c == '#'
    (some (rest.takeWhile (!ends ·)), rest.dropWhile (!ends ·))
  | text => (none, text)

def checkBracketed (host : List Char) : Except Problem Unit :=
  if host.head? == some 'v' then
    let version := (host.drop 1).takeWhile IpAddress.isHexDigit
    let rest := (host.drop 1).dropWhile IpAddress.isHexDigit
    if !version.isEmpty && rest.head? == some '.' && rest.length > 1 && !(rest.drop 1).contains '\n'
    then .ok () else .error .futureAddress
  else
    match IpAddress.v4Problem? host, IpAddress.v6Problem? host with
    | none, _ => .error .v4InBrackets
    | _, none => .ok ()
    | _, _ => .error (.notAnAddress host)

/-- Checks the brackets of an authority: both or neither, with an address between them. -/
def checkAuthority (authority : List Char) : Except Problem Unit :=
  let opens := authority.contains '['
  let closes := authority.contains ']'
  if opens != closes then .error .brackets
  else if opens then
    checkBracketed (((authority.dropWhile (· != '[')).drop 1).takeWhile (· != ']'))
  else .ok ()

/-- Characters that are, or hold, another form of a slash, a question mark, a number sign, an
at-sign or a colon. -/
def lookalikes : List Nat :=
  [0x2047, 0x2048, 0x2049, 0x2100, 0x2101, 0x2105, 0x2106, 0x2A74, 0xFE13, 0xFE16, 0xFE55, 0xFE56,
    0xFE5F, 0xFE6B, 0xFF03, 0xFF0F, 0xFF1A, 0xFF1F, 0xFF20]

def checkLookalikes (authority : List Char) : Except Problem Unit :=
  if authority.any fun c => lookalikes.contains c.toNat then .error (.lookalike authority)
  else .ok ()

/-- The path of an address. Controls and blanks in front, tabs and line breaks are ignored. -/
def pathOf (text : List Char) : Except Problem (List Char) := do
  let text := (text.dropWhile (·.toNat ≤ 0x20)).filter fun c => c != '\t' && c != '\r' && c != '\n'
  let (_, rest) := splitScheme text
  let (authority, rest) := splitAuthority rest
  checkAuthority (authority.getD [])
  checkLookalikes (authority.getD [])
  return rest.takeWhile fun c => c != '?' && c != '#'

/-- The address of a service without its query, and the fields of the query. -/
structure Target where
  base : List Char
  host : List Char
  query : List (List Char × List Char)

/-- The ports that need not be said. -/
def defaultPorts : List (List Char × List Char) :=
  [("http".toList, "80".toList), ("https".toList, "443".toList)]

/-- Splits the address of a service. The host is in lower case, the usual port is left out, and
there is always a path. -/
def target (text : List Char) : Target :=
  let (scheme, rest) := splitScheme text
  let (authority, rest) := splitAuthority rest
  let authority := (authority.getD []).map Char.toLower
  let host := authority.takeWhile (· != ':')
  let port := (authority.dropWhile (· != ':')).drop 1
  let shownPort := if port.isEmpty || defaultPorts.contains (scheme, port) then [] else ':' :: port
  let path := rest.takeWhile fun c => c != '?' && c != '#'
  let query := ((rest.takeWhile (· != '#')).dropWhile (· != '?')).drop 1
  ⟨scheme ++ "://".toList ++ host ++ shownPort ++ (if path.isEmpty then ['/'] else path), host,
    queryFields query⟩

end Accounts.Http.Url
