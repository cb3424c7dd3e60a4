import Accounts.Text.Blank
import Accounts.Text.Quoted
import Accounts.Text.Table

/-!
# Internet addresses

The syntax of IPv4 addresses (four decimal octets) and IPv6 addresses (eight hexadecimal groups, one
run of zero groups written as "::", the last two groups possibly as an IPv4 address), with the
reason why a text is none.
-/

namespace Accounts.IpAddress

open Text (splitOn)

inductive PartProblem where
  | emptyOctet
  | octetCharacter (part : List Char)
  | octetLength (part : List Char)
  | leadingZero (part : List Char)
  | octetRange (value : Nat)
  | groupCharacter (part : List Char)
  | groupLength (part : List Char)
  deriving DecidableEq, Repr

inductive Problem where
  | empty
  | slash
  | octetCount
  | scope
  | tooLong
  | fewParts
  | manyColons
  | twoGaps
  | leadingColon
  | trailingColon
  | fullGap
  | partCount
  | part (problem : PartProblem)
  /-- The IPv4 address at the end of an IPv6 one. -/
  | embedded (text : List Char) (problem : Problem)
  deriving DecidableEq, Repr

def shown (text : List Char) : String := String.ofList (Text.Quoted.quoted text)

def PartProblem.text : PartProblem → String
  | emptyOctet => "Empty octet not permitted"
  | octetCharacter part => s!"Only decimal digits permitted in {shown part}"
  | octetLength part => s!"At most 3 characters permitted in {shown part}"
  | leadingZero part => s!"Leading zeros are not permitted in {shown part}"
  | octetRange value => s!"Octet {value} (> 255) not permitted"
  | groupCharacter part => s!"Only hex digits permitted in {shown part}"
  | groupLength part => s!"At most 4 characters permitted in {shown part}"

/-- Long texts are shown without their middle. -/
def shortened (text : List Char) : List Char :=
  if text.length > 100 then
    text.take 45 ++ s!"({text.length - 90} chars elided)".toList ++ text.drop (text.length - 45)
  else text

/-- The reason in words, for the address `text` (`address`, of an IPv6 one, is the part before a
scope). -/
def Problem.text (whole address : List Char) : Problem → String
  | empty => "Address cannot be empty"
  | slash => s!"Unexpected '/' in {shown whole}"
  | octetCount => s!"Expected 4 octets in {shown address}"
  | scope => s!"Invalid IPv6 address: \"{shown whole}\""
  | tooLong => s!"At most 45 characters expected in {shown (shortened address)}"
  | fewParts => s!"At least 3 parts expected in {shown address}"
  | manyColons => s!"At most 8 colons permitted in {shown address}"
  | twoGaps => s!"At most one '::' permitted in {shown address}"
  | leadingColon => s!"Leading ':' only permitted as part of '::' in {shown address}"
  | trailingColon => s!"Trailing ':' only permitted as part of '::' in {shown address}"
  | fullGap => s!"Expected at most 7 other parts with '::' in {shown address}"
  | partCount => s!"Exactly 8 parts expected without '::' in {shown address}"
  | part problem => s!"{problem.text} in {shown address}"
  | embedded inner problem => s!"{problem.text inner inner} in {shown address}"

def octet (part : List Char) : Except PartProblem Nat :=
  let value := part.foldl (fun n c => 10 * n + (c.toNat - '0'.toNat)) 0
  if part.isEmpty then .error .emptyOctet
  else if !part.all Char.isDigit then .error (.octetCharacter part)
  else if part.length > 3 then .error (.octetLength part)
  else if part != ['0'] && part.head? == some '0' then .error (.leadingZero part)
  else if value > 255 then .error (.octetRange value)
  else .ok value

def v4 (text : List Char) : Except Problem (List Nat) :=
  if text.contains '/' then .error .slash
  else if text.isEmpty then .error .empty
  else
    let parts := splitOn '.' text
    if parts.length != 4 then .error .octetCount
    else (parts.mapM octet).mapError .part

def isHexDigit (c : Char) : Bool :=
  c.isDigit || ('a' ≤ c && c ≤ 'f') || ('A' ≤ c && c ≤ 'F')

def group (part : List Char) : Except PartProblem Unit :=
  if !part.all isHexDigit then .error (.groupCharacter part)
  else if part.length > 4 then .error (.groupLength part)
  else .ok ()

/-- Splits at the first `count` separators. -/
def splitAtMost (sep : Char) : Nat → List Char → List (List Char)
  | 0, text => [text]
  | count + 1, text =>
    match text.dropWhile (· != sep) with
    | [] => [text]
    | _ :: rest => text.takeWhile (· != sep) :: splitAtMost sep count rest

/-- The places of the empty parts that are neither first nor last. -/
def gaps (parts : List (List Char)) : List Nat :=
  (List.range (parts.length - 1)).filter fun i => i != 0 && (parts.getD i []).isEmpty

/-- The groups before and after the "::" of an address, which has to stand for one group at
least. -/
def aroundGap (parts : List (List Char)) (gap : Nat) : Except Problem (List (List Char)) := do
  let before := parts.take gap
  let after := parts.drop (gap + 1)
  let before := if (before.head?.getD []).isEmpty then before.drop 1 else before
  if (parts.head?.getD []).isEmpty && !before.isEmpty then .error .leadingColon
  let after := if (after.getLast?.getD []).isEmpty then after.dropLast else after
  if (parts.getLast?.getD []).isEmpty && !after.isEmpty then .error .trailingColon
  if before.length + after.length > 7 then .error .fullGap
  .ok (before ++ after)

/-- The groups of an address that has no "::". -/
def withoutGap (parts : List (List Char)) : Except Problem (List (List Char)) :=
  if parts.length != 8 then .error .partCount
  else if (parts.head?.getD []).isEmpty then .error .leadingColon
  else if (parts.getLast?.getD []).isEmpty then .error .trailingColon
  else .ok parts

/-- The parts with an IPv4 address at the end replaced by two groups. -/
def expanded (parts : List (List Char)) : Except Problem (List (List Char)) :=
  let last := parts.getLast?.getD []
  if last.contains '.' then
    match v4 last with
    | .ok _ => .ok (parts.dropLast ++ [['0'], ['0']])
    | .error problem => .error (.embedded last problem)
  else .ok parts

/-- The part of an IPv6 address before a scope. -/
def beforeScope (text : List Char) : List Char := text.takeWhile (· != '%')

def v6 (text : List Char) : Except Problem Unit := do
  if text.contains '/' then .error .slash
  if text.contains '%' then
    let scope := (text.dropWhile (· != '%')).drop 1
    if scope.isEmpty || scope.contains '%' then .error .scope
  let address := beforeScope text
  if address.isEmpty then .error .empty
  if address.length > 45 then .error .tooLong
  let parts := splitAtMost ':' 9 address
  if parts.length < 3 then .error .fewParts
  let parts ← expanded parts
  if parts.length > 9 then .error .manyColons
  let groups ← match gaps parts with
    | [] => withoutGap parts
    | [gap] => aroundGap parts gap
    | _ => .error .twoGaps
  let _ ← (groups.mapM group).mapError .part

def v4Problem? (text : List Char) : Option String :=
  match v4 text with
  | .ok _ => none
  | .error problem => some (problem.text text text)

def v6Problem? (text : List Char) : Option String :=
  match v6 text with
  | .ok _ => none
  | .error problem => some (problem.text text (beforeScope text))

end Accounts.IpAddress
