import Accounts.IpAddress
import Accounts.Text.CharName
import Accounts.Text.Normal
import Accounts.Text.Utf8

/-!
# E-mail addresses

`Email.canonical` checks an address and gives the form under which accounts know it: the local part
composed canonically, its case kept except for the mailboxes that every domain has, and the domain
in lower case. An address may arrive in angle brackets behind a name; the name is dropped.

Checks are made in a fixed order, which decides the reason given for an address with several faults:
the split into parts, the local part, the domain, the length, and last what is well-formed but not
accepted here.

Domains are read in ASCII only. One with other characters, or with a label that stands for such in
Punycode, is refused unread (`Problem.internationalized`), though such domains can be mailed to. So
what is said of addresses is said of those with domains in plain ASCII.
-/

namespace Accounts.Email

open Text

/-- Why a text is no e-mail address. -/
inductive Problem where
  | longText
  | lineBreak
  | noAt
  | fullWidthAt
  | smallAt
  | afterCloseQuote (chars : List Char)
  | displayNameCharacters (chars : List Char)
  | unsafeCharacters (chars : List Char)
  | unclosedAngle
  | afterAngle
  | emptyLocal
  | localCharacters (chars : List Char)
  | quotedCharacters (chars : List Char)
  | localEndsWithPeriod
  | startsWithPeriod
  | twoPeriods
  /-- A fault that the canonical composition of the local part has. -/
  | composed (problem : Problem)
  | quotedLocal
  | emptyDomain
  | bracketedV4 (reason : String)
  | bracketedV6 (reason : String)
  | bracketedNoTag
  | bracketedCharacters (chars : List Char)
  | bracketedTag
  | bracketed
  | longDomain (excess : Nat)
  | domainCharacters (chars : List Char)
  | endsWithPeriod
  | domainStartsWithPeriod
  | endsWithHyphen
  | domainStartsWithHyphen
  | periodAndHyphen
  | reservedLabel
  | longLabel (excess : Nat)
  | noPeriod
  | noTopLevel
  | specialUse
  /-- Neither right nor wrong: the domain is not read. -/
  | internationalized
  /-- At least and at most so many characters too many. -/
  | long (least most : Nat)
  /-- So many octets too many in the canonical form. -/
  | longComposed (octets : Nat)
  | displayName
  deriving DecidableEq, Repr

/-- A character as a message shows it: in quotes if it is visible by itself, else by its name or
its code point. -/
def displayed (c : Char) : String :=
  if c = '\\' then "\"\\\""
  else if isGraphic c then String.ofList (Quoted.quoted [c])
  else (charName? c).getD (String.ofList ('U' :: '+' ::
    (Quoted.hex (if c.toNat < 0xFFFF then 4 else 8) c.toNat).map Char.toUpper))

/-- Characters in the order of their displayed forms, each once. -/
def displayedSet (chars : List Char) : String :=
  ", ".intercalate (((chars.eraseDups.map displayed).mergeSort fun a b => a ≤ b).eraseDups) ++ "."

/-- Characters in the order of their code points, each once. -/
def displayedByCode (chars : List Char) : String :=
  ", ".intercalate ((chars.eraseDups.mergeSort fun a b => a ≤ b).map displayed) ++ "."

/-- How far over a limit a text is. -/
def excessText (excess : Nat) : String :=
  if excess = 1 then "(1 character too many)." else s!"({excess} characters too many)."

def Problem.text : Problem → String
  | longText => "Length must not exceed 2048 characters"
  | lineBreak => "Carriage return and line feed characters are not allowed"
  | noAt => "An email address must have an @-sign."
  | fullWidthAt =>
    "The email address has the \"full-width\" at-sign (@) character instead of a regular at-sign."
  | smallAt =>
    "The email address has the \"small commercial at\" character instead of a regular at-sign."
  | afterCloseQuote chars =>
    "Extra character(s) found after close quote: " ++ ", ".intercalate (chars.map displayed) ++ "."
  | displayNameCharacters chars =>
    "The display name contains invalid characters when not quoted: " ++ displayedSet chars
  | unsafeCharacters chars =>
    "The email address contains unsafe characters: " ++ displayedByCode chars
  | unclosedAngle =>
    "An open angle bracket at the start of the email address has to be followed by " ++
      "a close angle " ++
      "bracket at the end."
  | afterAngle => "There can't be anything after the email address."
  | emptyLocal => "There must be something before the @-sign."
  | localCharacters chars =>
    "The email address contains invalid characters before the @-sign: " ++ displayedSet chars
  | quotedCharacters chars =>
    "The email address contains invalid characters in quotes before the @-sign: " ++
      displayedSet chars
  | localEndsWithPeriod => "An email address cannot have a period immediately before the @-sign."
  | startsWithPeriod => "An email address cannot start with a period."
  | twoPeriods => "An email address cannot have two periods in a row."
  | composed problem => "After Unicode normalization: " ++ problem.text
  | quotedLocal => "Quoting the part before the @-sign is not allowed here."
  | emptyDomain => "There must be something after the @-sign."
  | bracketedV4 reason =>
    "The address in brackets after the @-sign is not valid: " ++
      s!"It is not an IPv4 address ({reason}) " ++
      "or is missing an address literal tag."
  | bracketedV6 reason =>
    s!"The IPv6 address in brackets after the @-sign is not valid ({reason})."
  | bracketedNoTag =>
    "The part after the @-sign in brackets is not an IPv4 address and has no address literal tag."
  | bracketedCharacters chars =>
    "The part after the @-sign contains invalid characters in brackets: " ++ displayedSet chars
  | bracketedTag =>
    "The part after the @-sign contains an invalid address literal tag in brackets."
  | bracketed => "A bracketed IP address after the @-sign is not allowed here."
  | longDomain excess => "The email address is too long after the @-sign " ++ excessText excess
  | domainCharacters chars =>
    "The part after the @-sign contains invalid characters: " ++ displayedSet chars
  | endsWithPeriod => "An email address cannot end with a period."
  | domainStartsWithPeriod =>
    "An email address cannot have a period immediately after the @-sign."
  | endsWithHyphen => "An email address cannot end with a hyphen."
  | domainStartsWithHyphen =>
    "An email address cannot have a hyphen immediately after the @-sign."
  | periodAndHyphen =>
    "An email address cannot have a period and a hyphen next to each other."
  | reservedLabel =>
    "An email address cannot have two letters followed by two dashes immediately " ++
      "after the @-sign " ++
      "or after a period, except Punycode."
  | longLabel excess =>
    "After the @-sign, periods cannot be separated by so many characters " ++ excessText excess
  | noPeriod => "The part after the @-sign is not valid. It should have a period."
  | noTopLevel =>
    "The part after the @-sign is not valid. It is not within a valid top-level domain."
  | specialUse =>
    "The part after the @-sign is a special-use or reserved name that cannot be used with email."
  | internationalized => "Domains beyond ASCII are not read."
  | long least most =>
    if least = most then "The email address is too long " ++ excessText most
    else s!"The email address is too long ({least}-{most} characters too many)."
  | longComposed octets =>
    "The email address is too long after normalization " ++
      (if octets = 1 then "(1 byte too many)." else s!"({octets} bytes too many).")
  | displayName =>
    "A display name and angle brackets around the email address are not permitted here."

/-! ## Characters -/

/-- The punctuation that a local part may hold without quotes, the period apart. -/
def atomPunctuation : List Char := "_!#$%&'*+-/=?^\x60\x7b|\x7d~".toList

def isAsciiAtom (c : Char) : Bool := c.isAlphanum || atomPunctuation.contains c

/-- The characters of an atom, those beyond ASCII included. -/
def isAtom (c : Char) : Bool := isAsciiAtom c || 0x80 ≤ c.toNat

/-- Atoms with single periods between them. -/
def isDotAtom (p : Char → Bool) (text : List Char) : Bool :=
  (splitOn '.' text).all fun atom => !atom.isEmpty && atom.all p

/-- The characters that make a text unsafe to pass on: separators (spaces are admitted on request),
controls and unassigned code points, and a combining mark in front. -/
def findUnsafe (allowSpace : Bool) (text : List Char) : List Char :=
  let bad (c : Char) : Bool :=
    !(isGraphic c || isMark c ||
      allowSpace && isWhiteSpace c && c.toNat != 0x85 && c.toNat != 0x2028 && c.toNat != 0x2029 &&
        (c == ' ' || 0x80 ≤ c.toNat))
  match text with
  | [] => []
  | first :: rest => (if isMark first || bad first then [first] else []) ++ rest.filter bad

def checkSafe (allowSpace : Bool) (text : List Char) : Except Problem Unit :=
  match findUnsafe allowSpace text with
  | [] => .ok ()
  | chars => .error (.unsafeCharacters chars)

/-! ## Splitting -/

/-- Whether composition leaves a character as it is in front of `rest`. -/
def standsAlone (c : Char) (rest : List Char) : Bool :=
  let marks := rest.takeWhile fun d => Normal.combiningClass d.toNat != 0
  let next := (rest.drop marks.length).take 1
  (Normal.composed (c :: marks ++ next)).head? == some c

/-- Where a scan for special characters stands. -/
structure Scan where
  quoted : Bool
  escaped : Bool

/-- Splits a text before its first special character outside quotes. -/
def splitSpecial (special : Char → Bool) : Scan → List Char → List Char × List Char
  | _, [] => ([], [])
  | scan, c :: rest =>
    let keep (next : Scan) :=
      let (left, right) := splitSpecial special next rest
      (c :: left, right)
    if !standsAlone c rest then keep scan
    else if scan.quoted then
      if c = '\\' && !scan.escaped then keep { scan with escaped := true }
      else if c = '"' && !scan.escaped then keep ⟨false, false⟩
      else keep { scan with escaped := false }
    else if c = '"' then keep { scan with quoted := true }
    else if special c then ([], c :: rest)
    else keep scan

/-- Splits a text before its first special character outside quotes, which has to exist. -/
def splitAtSpecial (special : Char → Bool) (text : List Char) :
    Except Problem (List Char × List Char) :=
  match splitSpecial special ⟨false, false⟩ text with
  | (_, []) =>
    .error (if text.any (·.toNat == 0xFF20) then .fullWidthAt
      else if text.any (·.toNat == 0xFE6B) then .smallAt else .noAt)
  | parts => .ok parts

/-- The content of a quoted text, from behind the opening quote on. -/
def unquoteBody : Bool → List Char → Except Problem (List Char)
  | _, [] => .ok []
  | true, c :: rest => (unquoteBody false rest).map (c :: ·)
  | false, c :: rest =>
    if c = '\\' then unquoteBody true rest
    else if c = '"' then if rest.isEmpty then .ok [] else .error (.afterCloseQuote rest)
    else (unquoteBody false rest).map (c :: ·)

/-- A text without quotes around it, and whether it had any. -/
def unquote : List Char → Except Problem (List Char × Bool)
  | '"' :: rest => (unquoteBody false rest).map (·, true)
  | text => .ok (text, false)

structure Parts where
  /-- The address stood in angle brackets. -/
  named : Bool
  localPart : List Char
  domain : List Char
  /-- The local part stood in quotes. -/
  quoted : Bool

def checkDisplayName (text : List Char) : Except Problem Unit := do
  let (name, quoted) ← unquote text
  if !quoted then
    let bad := name.filter fun c => !(isAsciiAtom c || c == ' ')
    if !bad.isEmpty then .error (.displayNameCharacters bad)
  checkSafe true name

def insideAngles (text : List Char) : Except Problem (List Char) :=
  if !text.contains '>' then .error .unclosedAngle
  else
    let trimmed := trimRightBy (· == ' ') text
    if trimmed.getLast? != some '>' then .error .afterAngle
    else .ok (trimRightBy (· == '>') (trimmed.drop 1))

def split (text : List Char) : Except Problem Parts := do
  let (left, right) ← splitAtSpecial (fun c => c == '@' || c == '<') text
  let (named, left, right) ← if right.head? == some '<' then do
      checkDisplayName (trimRightBy isBlank left)
      let inner ← insideAngles right
      let (left, right) ← splitAtSpecial (· == '@') inner
      .ok (true, left, right)
    else .ok (false, left, right)
  let (localPart, quoted) ← unquote left
  .ok ⟨named, localPart, right.drop 1, quoted⟩

/-! ## Local part -/

def hasTwoPeriods : List Char → Bool
  | '.' :: '.' :: _ => true
  | _ :: rest => hasTwoPeriods rest
  | [] => false

/-- What is wrong with the periods of a local part. -/
def localPeriods (text : List Char) : Problem :=
  if text.getLast? == some '.' then .localEndsWithPeriod
  else if text.head? == some '.' then .startsWithPeriod
  else .twoPeriods

def checkLocal (quoted : Bool) (text : List Char) : Except Problem Unit :=
  if text.isEmpty then .error .emptyLocal
  else if isDotAtom isAsciiAtom text then .ok ()
  else if isDotAtom isAtom text then checkSafe false text
  else if quoted then
    let bad := text.filter fun c => c.toNat < 0x20 || c.toNat == 0x7F
    if !bad.isEmpty then .error (.quotedCharacters bad) else checkSafe true text
  else
    let bad := text.filter fun c => !(isAtom c || c == '.')
    if !bad.isEmpty then .error (.localCharacters bad) else .error (localPeriods text)

/-- The mailboxes that every domain is expected to have, in whatever case they are written. -/
def commonMailboxes : List String :=
  ["info", "marketing", "sales", "support", "abuse", "noc", "security", "postmaster", "hostmaster",
    "usenet", "news", "webmaster", "www", "uucp", "ftp"]

/-- Whether a composed local part is a common mailbox. -/
def isCommonMailbox (text : List Char) : Bool :=
  isDotAtom isAsciiAtom text && commonMailboxes.contains (String.ofList (text.map Char.toLower))

def canonicalLocal (quoted : Bool) (text : List Char) : Except Problem (List Char) := do
  checkLocal quoted text
  let composed := Normal.composed text
  if composed != text then (checkLocal quoted composed).mapError .composed
  if quoted then .error .quotedLocal
  if isCommonMailbox composed then .ok (composed.map Char.toLower) else .ok composed

/-! ## Domain -/

def bracketedProblem (literal : List Char) : Problem :=
  if !literal.isEmpty && literal.all fun c => c.isDigit || c == '.' then
    match IpAddress.v4Problem? literal with
    | some reason => .bracketedV4 reason
    | none => .bracketed
  else if "IPv6:".toList.isPrefixOf literal then
    match IpAddress.v6Problem? (literal.drop 5) with
    | some reason => .bracketedV6 reason
    | none => .bracketed
  else if !literal.contains ':' then .bracketedNoTag
  else
    let bad := literal.filter fun c =>
      !(0x21 ≤ c.toNat && c.toNat ≤ 0x5A || 0x5E ≤ c.toNat && c.toNat ≤ 0x7E)
    if bad.isEmpty then .bracketedTag else .bracketedCharacters bad

/-- The names that mail cannot be sent to. -/
def specialDomains : List String := ["arpa", "invalid", "local", "localhost", "onion", "test"]

/-- A domain is one of the names that mail cannot be sent to, or under one. -/
def isSpecial (domain : List Char) : Bool :=
  specialDomains.any fun name =>
    domain == name.toList || ('.' :: name.toList).reverse.isPrefixOf domain.reverse

/-- Whether `a` is followed by `b` somewhere. -/
def hasPair (a b : Char) : List Char → Bool
  | c :: d :: rest => c = a && d = b || hasPair a b (d :: rest)
  | _ => false

/-- A label in the form that is reserved for encodings, other than the one in use. -/
def isReservedLabel : List Char → Bool
  | a :: b :: '-' :: '-' :: _ => !(a = 'x' && b = 'n')
  | _ => false

/-- A label that stands for characters beyond ASCII. -/
def isPunycode (label : List Char) : Bool := "xn--".toList.isPrefixOf label

/-- The length of the longest text. -/
def firstOver (limit : Nat) (labels : List (List Char)) : Option Nat :=
  (labels.find? (·.length > limit)).map (·.length - limit)

/-- Checks the characters of a domain, and how many there are. -/
def checkDomain (text : List Char) : Except Problem Unit := do
  if text.isEmpty then .error .emptyDomain
  if text.head? == some '[' && text.getLast? == some ']' then
    .error (bracketedProblem ((text.drop 1).dropLast))
  if text.length > 253 then .error (.longDomain (text.length - 253))
  let other := text.filter fun c => !(c.isAlphanum || c == '.' || c == '-')
  let bad := other.filter (·.toNat < 0x80)
  if !bad.isEmpty then .error (.domainCharacters bad)
  if !other.isEmpty then .error .internationalized

/-- Checks the labels of a domain in lower case. -/
def checkLabels (domain : List Char) : Except Problem Unit := do
  let labels := splitOn '.' domain
  if domain.getLast? == some '.' then .error .endsWithPeriod
  if domain.head? == some '.' then .error .domainStartsWithPeriod
  if hasTwoPeriods domain then .error .twoPeriods
  if domain.getLast? == some '-' then .error .endsWithHyphen
  if domain.head? == some '-' then .error .domainStartsWithHyphen
  if hasPair '.' '-' domain || hasPair '-' '.' domain then .error .periodAndHyphen
  if labels.any isReservedLabel then .error .reservedLabel
  if let some excess := firstOver 63 labels then .error (.longLabel excess)
  if !domain.contains '.' then .error .noPeriod
  if !(domain.getLast?.any Char.isAlpha) then .error .noTopLevel
  if isSpecial domain then .error .specialUse
  if labels.any isPunycode then .error .internationalized

def canonicalDomain (text : List Char) : Except Problem (List Char) := do
  checkDomain text
  let domain := text.map Char.toLower
  checkLabels domain
  .ok domain

/-! ## Whole addresses -/

/-- The greatest length of an address in octets. -/
def maxLength : Nat := 254

/-- The octets of a text above the limit. -/
def excess (text : List Char) : Nat := (Utf8.encode text).length - maxLength

/-- The fewest characters that are too many, if all of them are as wide as the widest one. -/
def leastExcess (text : List Char) : Nat :=
  let widest := (text.map fun c => (Utf8.encodeCode c.toNat).length).foldl max 1
  max 1 (excess text / widest)

def checkLength (written canonical : List Char) : Except Problem Unit := do
  if excess written > 0 then .error (.long (leastExcess written) (excess written))
  if excess canonical > 0 then .error (.longComposed (excess canonical))

/-- The canonical form of an address without blanks around it. -/
def canonicalAddress (text : List Char) : Except Problem (List Char) := do
  let parts ← split text
  let localPart ← canonicalLocal parts.quoted parts.localPart
  let domain ← canonicalDomain parts.domain
  let canonical := localPart ++ '@' :: domain
  checkLength (parts.localPart ++ '@' :: parts.domain) canonical
  if parts.named then .error .displayName
  .ok canonical

/-! ## Names in front -/

/-- The characters of a name that needs no quotes. -/
def isNameCharacter (c : Char) : Bool :=
  isWord c || ".!#$%&'*+-/=?^_\x60\x7b|\x7d~".toList.contains c

/-- The text up to the last closing angle bracket, behind which there may be blanks. -/
def beforeClosing? (text : List Char) : Option (List Char) :=
  let trimmed := trimRightBy isBlank text
  if trimmed.getLast? == some '>' && trimmed.length > 1 then some trimmed.dropLast else none

/-- An address in angle brackets, behind blanks. -/
def angled? (text : List Char) : Option (List Char) :=
  match text.dropWhile isBlank with
  | '<' :: rest => beforeClosing? rest
  | _ => none

/-- The address behind a quoted name; the name ends with the last quote that has an address behind
it. -/
def behindQuote? : List Char → Option (List Char)
  | [] => none
  | c :: rest =>
    match behindQuote? rest with
    | some found => some found
    | none => if c = '"' then angled? rest else none

/-- The address in angle brackets at the end of a text, in front of which there may be a name. -/
def behindName? (text : List Char) : Option (List Char) :=
  match text.dropWhile isBlank with
  | '<' :: rest => beforeClosing? rest
  | '"' :: _ :: rest => behindQuote? rest
  | c :: rest =>
    let name := (c :: rest).takeWhile (· != '<')
    if isNameCharacter c && name.all fun d => isNameCharacter d || isBlank d then
      angled? (rest.drop (name.length - 1))
    else none
  | [] => none

/-- Longer texts are not looked at. -/
def maxText : Nat := 2048

/-- The canonical form of an e-mail address. -/
def canonical (text : String) : Except Problem String := do
  let chars := text.toList
  if chars.length > maxText then .error .longText
  if chars.any fun c => c == '\n' || c == '\r' then .error .lineBreak
  let address := trim ((behindName? chars).getD chars)
  (canonicalAddress address).map String.ofList

end Accounts.Email
