import Accounts.Text.Blank
import Accounts.Text.CaseVariant
import Accounts.Text.Category
import Accounts.Text.Digit

/-!
# Patterns

Regular patterns with groups. A pattern may match in several ways at a place, and prefers some of
them: the first of two alternatives, more rounds of a repetition or fewer. `Pattern.first?` goes
through the ways in this order until what follows has an answer, so that a way which leads nowhere
is left for the next one. A search takes the match at the first place that has one.
-/

namespace Accounts

/-- One item of a character class. -/
inductive CharItem where
  | range (low high : Char)
  | digit
  | word
  | blank
  | notDigit
  | notWord
  | notBlank
  /-- The item without regard to case, everywhere or among ASCII letters only. -/
  | anyCase (asciiOnly : Bool) (item : CharItem)
  deriving DecidableEq, Repr

/-- The characters that stand for one when case does not count. -/
def sameLetters (asciiOnly : Bool) (c : Char) : List Char :=
  if asciiOnly then Text.asciiCaseVariants c else Text.caseVariants c

def CharItem.contains (item : CharItem) (c : Char) : Bool :=
  match item with
  | range low high => low ≤ c && c ≤ high
  | digit => Text.isDigit c
  | word => Text.isWord c
  | blank => Text.isBlank c
  | notDigit => !Text.isDigit c
  | notWord => !Text.isWord c
  | notBlank => !Text.isBlank c
  | anyCase asciiOnly item => (sameLetters asciiOnly c).any item.contains

/-- How much of a repetition is preferred. -/
inductive Greed where
  /-- As many rounds as possible first. -/
  | greedy
  /-- As few rounds as possible first. -/
  | lazy
  /-- As many rounds as possible and nothing else. -/
  | possessive
  deriving DecidableEq, Repr

/-- A regular pattern. Groups are numbered from 0. -/
inductive Pattern where
  | empty
  /-- One character that is in one of the items, or in none of them if `negated`. -/
  | one (negated : Bool) (items : List CharItem)
  | seq (first second : Pattern)
  | alt (first second : Pattern)
  | group (index : Nat) (body : Pattern)
  | repetition (low : Nat) (high : Option Nat) (greed : Greed) (body : Pattern)
  /-- The start of the text. -/
  | start
  /-- The end of the text, or the place before a line feed that ends it. -/
  | stop
  /-- The end of the text itself. -/
  | finish
  /-- The start of a line. -/
  | lineStart
  /-- The end of a line. -/
  | lineStop
  /-- A place between a character of a word, which is in one of the items, and something else; or
  any other place of a text that is not empty. -/
  | wordEdge (negated : Bool) (items : List CharItem)
  /-- The text of a group once more, with or without regard to case. -/
  | again (index : Nat) (anyCase : Bool)
  /-- A place at which `body` matches, or does not. -/
  | ahead (negated : Bool) (body : Pattern)
  /-- A place at which `body` matches the `width` characters before, or does not. -/
  | behind (negated : Bool) (width : Nat) (body : Pattern)
  /-- One of two patterns, depending on whether a group took part. -/
  | whether (index : Nat) (yes no : Pattern)
  deriving Repr

namespace Pattern

/-- A place in a text: the characters before it, the nearest first, those behind it, and what the
groups hold. -/
structure Place where
  position : Nat
  passed : List Char
  rest : List Char
  groups : List (Nat × List Char)
  deriving DecidableEq, Repr

namespace Place

def group? (place : Place) (index : Nat) : Option (List Char) :=
  (place.groups.find? (·.1 == index)).map (·.2)

/-- The place behind the first `n` characters. -/
def advance (place : Place) (n : Nat) : Place :=
  { place with
    position := place.position + n
    passed := (place.rest.take n).reverse ++ place.passed
    rest := place.rest.drop n }

/-- The place before the last `n` characters. -/
def retreat (place : Place) (n : Nat) : Place :=
  { place with
    position := place.position - n
    passed := place.passed.drop n
    rest := (place.passed.take n).reverse ++ place.rest }

end Place

/-- Whether a text starts with another one, with or without regard to case. -/
def startsWith (anyCase : Bool) : List Char → List Char → Bool
  | [], _ => true
  | _ :: _, [] => false
  | c :: front, d :: text =>
    (c == d || anyCase && (Text.caseVariants c).contains d) && startsWith anyCase front text

/-- The first answer of `next` behind rounds of a repetition. `step` is one round; rounds up to
`low` are needed, and a round that went nowhere is followed by no other. -/
def rounds (step : (Place → Option Place) → Place → Option Place) (high : Option Nat)
    (greed : Greed) (next : Place → Option Place) :
    Nat → Nat → Nat → Option Nat → Place → Option Place
  | 0, _, _, _, _ => none
  | fuel + 1, low, done, last, place =>
    let again (previous : Option Nat) : Option Place :=
      step (rounds step high greed next fuel (low - 1) (done + 1) previous) place
    if low > 0 then again last
    else if high.any (done ≥ ·) || last == some place.position then next place
    else match greed with
      | .lazy => next place <|> again (some place.position)
      | _ => again (some place.position) <|> next place

/-- Goes on if something was found or, negated, if nothing was. Groups keep what they hold from a
match that was looked for. -/
def witnessed (negated : Bool) (found : Option Place) (next : Place → Option Place)
    (place : Place) : Option Place :=
  match negated, found with
  | true, none => next place
  | true, some _ => none
  | false, some found => next { place with groups := found.groups }
  | false, none => none

/-- The first answer of `next` at the places that a pattern leads to, the preferred place first. -/
def first? : Pattern → (Place → Option Place) → Place → Option Place
  | empty, next, place => next place
  | one negated items, next, place =>
    match place.rest with
    | c :: _ => if (items.any (·.contains c)) != negated then next (place.advance 1) else none
    | [] => none
  | seq first second, next, place => first? first (first? second next) place
  | alt first second, next, place => first? first next place <|> first? second next place
  | group index body, next, place =>
    first? body (fun found =>
      let held := place.rest.take (found.position - place.position)
      next { found with groups := (index, held) :: found.groups }) place
  | repetition low high greed body, next, place =>
    let fuel := low + place.rest.length + 2
    match greed with
    | .possessive => (rounds (first? body) high greed some fuel low 0 none place).bind next
    | _ => rounds (first? body) high greed next fuel low 0 none place
  | start, next, place => if place.position = 0 then next place else none
  | stop, next, place => if place.rest = [] ∨ place.rest = ['\n'] then next place else none
  | finish, next, place => if place.rest = [] then next place else none
  | lineStart, next, place =>
    if place.position = 0 ∨ place.passed.head? = some '\n' then next place else none
  | lineStop, next, place =>
    if place.rest = [] ∨ place.rest.head? = some '\n' then next place else none
  | wordEdge negated items, next, place =>
    let isWord (c : Char) : Bool := items.any (·.contains c)
    let edge := place.passed.head?.any isWord != place.rest.head?.any isWord
    if edge != negated && !(place.passed.isEmpty && place.rest.isEmpty) then next place else none
  | again index anyCase, next, place =>
    match place.group? index with
    | some held =>
      if startsWith anyCase held place.rest then next (place.advance held.length) else none
    | none => none
  | ahead negated body, next, place => witnessed negated (first? body some place) next place
  | behind negated width body, next, place =>
    let found := if place.position < width then none else first? body some (place.retreat width)
    witnessed negated found next place
  | whether index yes no, next, place =>
    match place.group? index with
    | some _ => first? yes next place
    | none => first? no next place

/-- Where the preferred match that starts at a place ends. -/
def matchAt? (pattern : Pattern) (place : Place) : Option Place := pattern.first? some place

/-- The match at the first place, from the one behind `passed` on, that has one. -/
def searchFrom (pattern : Pattern) (position : Nat) (passed : List Char) :
    List Char → Option Place
  | [] => pattern.matchAt? ⟨position, passed, [], []⟩
  | c :: rest =>
    pattern.matchAt? ⟨position, passed, c :: rest, []⟩ <|>
      searchFrom pattern (position + 1) (c :: passed) rest

/-- The texts of the groups that took part in the first match of a text, in the order of the groups;
nothing if the pattern does not match. -/
def captures? (pattern : Pattern) (groupCount : Nat) (text : List Char) :
    Option (List (List Char)) :=
  (pattern.searchFrom 0 [] text).map fun found =>
    (List.range groupCount).filterMap found.group?

/-! ## Building patterns -/

def char (c : Char) : Pattern := .one false [.range c c]

def literal : List Char → Pattern
  | [] => .empty
  | c :: rest => .seq (char c) (literal rest)

def row : List Pattern → Pattern
  | [] => .empty
  | first :: rest => .seq first (row rest)

/-- One or more rounds, as many as possible. -/
def some1 (body : Pattern) : Pattern := .repetition 1 none .greedy body

/-- The preferred way only. -/
def once (body : Pattern) : Pattern := .repetition 1 (some 1) .possessive body

/-! ## Width -/

/-- The least and, if there is a limit, the greatest number of characters that a pattern matches,
given those of the groups. -/
def width (ofGroup : Nat → Nat × Option Nat) : Pattern → Nat × Option Nat
  | one .. => (1, some 1)
  | seq first second =>
    let (low, high) := width ofGroup first
    let (low', high') := width ofGroup second
    (low + low', do return (← high) + (← high'))
  | alt first second | whether _ first second =>
    let (low, high) := width ofGroup first
    let (low', high') := width ofGroup second
    (min low low', do return max (← high) (← high'))
  | group _ body => width ofGroup body
  | repetition low high _ body =>
    let (least, most) := width ofGroup body
    (least * low, if most = some 0 ∨ high = some 0 then some 0 else do return (← most) * (← high))
  | again index _ => ofGroup index
  | _ => (0, some 0)

end Pattern

end Accounts
