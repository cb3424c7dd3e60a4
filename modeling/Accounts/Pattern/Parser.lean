import Accounts.Pattern.Basic

/-!
# Patterns written as text

The usual notation of regular patterns: alternatives with "|", groups in parentheses (with names, or
without a group), classes in brackets, repetitions with "*", "+", "?" and bounds in braces, and
escapes with a backslash. Letters behind an opening parenthesis and a question mark set options, for
the whole pattern or for what is in the parentheses. A text that breaks the notation has no pattern.
-/

namespace Accounts.Pattern.Parser

/-! ## Options -/

/-- How the rest of the text is read. -/
structure Options where
  /-- Case does not count. -/
  anyCase : Bool
  /-- "^" and "$" stand for the start and the end of every line. -/
  lines : Bool
  /-- The period stands for line feeds too. -/
  dotAll : Bool
  /-- Blanks and comments between items are passed over. -/
  spaced : Bool
  /-- Classes hold ASCII characters only. -/
  ascii : Bool

namespace Options

def none : Options := ⟨false, false, false, false, false⟩

/-- Sets or clears an option by its letter; "a" and "u" can only be set, and not together. -/
def set? (options : Options) (value : Bool) : Char → Option Options
  | 'i' => some { options with anyCase := value }
  | 'm' => some { options with lines := value }
  | 's' => some { options with dotAll := value }
  | 'x' => some { options with spaced := value }
  | 'a' => if value then some { options with ascii := true } else .none
  | 'u' => if value then some { options with ascii := false } else .none
  | _ => .none

def setAll? (options : Options) (value : Bool) (letters : List Char) : Option Options :=
  if letters.contains 'a' && letters.contains 'u' then .none
  else letters.foldlM (·.set? value ·) options

end Options

/-- The characters that words and blanks of ASCII are made of. -/
def asciiWord : List CharItem :=
  [.range 'a' 'z', .range 'A' 'Z', .range '0' '9', .range '_' '_']

def asciiBlank : List CharItem := [.range '\t' '\x0d', .range ' ' ' ']

def greatestChar : Char := Char.ofNat 0x10FFFF

/-- A class of characters under options. -/
def Options.items (options : Options) (item : CharItem) : List CharItem :=
  if options.ascii then
    match item with
    | .digit => [.range '0' '9']
    | .notDigit => [.range '\x00' '/', .range ':' greatestChar]
    | .word => asciiWord
    | .notWord =>
      [.range '\x00' '/', .range ':' '@', .range '[' '^', .range '\x60' '\x60',
        .range '\x7b' greatestChar]
    | .blank => asciiBlank
    | .notBlank => [.range '\x00' '\x08', .range '\x0e' '\x1f', .range '!' greatestChar]
    | item => [item]
  else [item]

def Options.fold (options : Options) (items : List CharItem) : List CharItem :=
  if options.anyCase then items.map (.anyCase options.ascii) else items

def Options.char (options : Options) (c : Char) : Pattern := .one false (options.fold [.range c c])

def Options.wordItems (options : Options) : List CharItem := options.items .word

/-! ## Escapes -/

structure Groups where
  count : Nat
  names : List (List Char × Nat)
  /-- The groups that are complete, with their widths. -/
  closed : List (Nat × Nat × Option Nat)
  /-- The groups that have to be there in the end. -/
  needed : List Nat
  /-- Inside a look back, the number of groups in front of it: later ones cannot be referred to. -/
  limit : Option Nat

def Groups.width (groups : Groups) (index : Nat) : Nat × Option Nat :=
  ((groups.closed.find? (·.1 == index)).map (·.2)).getD (0, none)

/-- The text of a group once more, if the group may be referred to. -/
def Groups.again? (groups : Groups) (options : Options) (index : Nat) : Option Pattern :=
  if groups.closed.any (·.1 == index) && !groups.limit.any (· ≤ index) then
    some (.again index options.anyCase)
  else none

def isHex (c : Char) : Bool := c.isDigit || ('a' ≤ c && c ≤ 'f') || ('A' ≤ c && c ≤ 'F')

def isOctal (c : Char) : Bool := '0' ≤ c && c ≤ '7'

def hexValue (digits : List Char) : Nat :=
  digits.foldl (fun n c =>
    16 * n + (if c.isDigit then c.toNat - 48 else c.toLower.toNat - 87)) 0

def octalValue (digits : List Char) : Nat := digits.foldl (fun n c => 8 * n + (c.toNat - 48)) 0

def hexChar? (width : Nat) (text : List Char) : Option (Char × List Char) :=
  let digits := text.take width
  if digits.length = width && digits.all isHex && (hexValue digits).isValidChar then
    some (Char.ofNat (hexValue digits), text.drop width)
  else none

/-- A character given by up to `width` octal digits, which stand for 255 at most. -/
def octalChar? (width : Nat) (text : List Char) : Option (Char × List Char) :=
  let digits := (text.take width).takeWhile isOctal
  if octalValue digits ≤ 255 then some (Char.ofNat (octalValue digits), text.drop digits.length)
  else none

/-- The escapes that stand for one character, from behind the backslash on. -/
def escapedChar? : List Char → Option (Char × List Char)
  | 'n' :: rest => some ('\n', rest)
  | 't' :: rest => some ('\t', rest)
  | 'r' :: rest => some ('\r', rest)
  | 'f' :: rest => some ('\x0c', rest)
  | 'v' :: rest => some ('\x0b', rest)
  | 'a' :: rest => some ('\x07', rest)
  | 'x' :: rest => hexChar? 2 rest
  | 'u' :: rest => hexChar? 4 rest
  | 'U' :: rest => hexChar? 8 rest
  | '0' :: rest => octalChar? 3 ('0' :: rest)
  | c :: rest => if c.isAlphanum then none else some (c, rest)
  | [] => none

/-- The escapes that stand for a class of characters. -/
def classEscape? : Char → Option CharItem
  | 'd' => some .digit
  | 'w' => some .word
  | 's' => some .blank
  | 'D' => some .notDigit
  | 'W' => some .notWord
  | 'S' => some .notBlank
  | _ => none

/-- One member of a bracketed class: a class of its own, or a character. -/
def classMember? : List Char → Option ((CharItem ⊕ Char) × List Char)
  | '\\' :: c :: rest =>
    match classEscape? c with
    | some item => some (.inl item, rest)
    | none =>
      if c = 'b' then some (.inr '\x08', rest)
      else
        let found := if isOctal c then octalChar? 3 (c :: rest) else escapedChar? (c :: rest)
        found.map fun (found, rest) => (.inr found, rest)
  | '\\' :: [] => none
  | c :: rest => some (.inr c, rest)
  | [] => none

/-- The members of a bracketed class up to its end. The first member may be a closing bracket. -/
def classMembers? (options : Options) : Nat → Bool → List Char → Option (List CharItem × List Char)
  | 0, _, _ => none
  | _ + 1, false, ']' :: rest => some ([], rest)
  | fuel + 1, _, text => do
    let (member, rest) ← classMember? text
    match member, rest with
    | .inl item, '-' :: ']' :: rest => some (options.items item ++ [.range '-' '-'], rest)
    | .inl _, '-' :: _ => none
    | .inl item, rest =>
      let (items, rest) ← classMembers? options fuel false rest
      some (options.items item ++ items, rest)
    | .inr c, '-' :: ']' :: rest => some ([.range c c, .range '-' '-'], rest)
    | .inr c, '-' :: rest => do
      let (upper, rest) ← classMember? rest
      match upper with
      | .inr d =>
        if d < c then none
        else
          let (items, rest) ← classMembers? options fuel false rest
          some (.range c d :: items, rest)
      | .inl _ => none
    | .inr c, rest =>
      let (items, rest) ← classMembers? options fuel false rest
      some (.range c c :: items, rest)

/-- A number behind a backslash: a character if it has three octal digits, else a group. -/
def numbered? (options : Options) (groups : Groups) (text : List Char) :
    Option (Pattern × List Char) :=
  let octal := (text.take 3).takeWhile isOctal
  if octal.length = 3 then (octalChar? 3 text).map fun (c, rest) => (options.char c, rest)
  else
    let digits := (text.take 2).takeWhile Char.isDigit
    let index := digits.foldl (fun n c => 10 * n + (c.toNat - 48)) 0
    (groups.again? options (index - 1)).map fun found => (found, text.drop digits.length)

/-- An escape outside brackets, from behind the backslash on. -/
def escape? (options : Options) (groups : Groups) : List Char → Option (Pattern × List Char)
  | 'A' :: rest => some (.start, rest)
  | 'Z' :: rest => some (.finish, rest)
  | 'b' :: rest => some (.wordEdge false options.wordItems, rest)
  | 'B' :: rest => some (.wordEdge true options.wordItems, rest)
  | c :: rest =>
    match classEscape? c with
    | some item => some (.one false (options.items item), rest)
    | none =>
      if c.isDigit && c != '0' then numbered? options groups (c :: rest)
      else (escapedChar? (c :: rest)).map fun (found, rest) => (options.char found, rest)
  | [] => none

/-! ## Repetitions -/

def decimalValue (digits : List Char) : Nat := digits.foldl (fun n c => 10 * n + (c.toNat - 48)) 0

/-- Bounds in braces, from behind the opening brace on. What is no bounds is a brace. -/
def bounds? (text : List Char) : Option (Nat × Option Nat × List Char) :=
  let low := text.takeWhile Char.isDigit
  match text.dropWhile Char.isDigit with
  | '}' :: rest =>
    if low.isEmpty then none else some (decimalValue low, some (decimalValue low), rest)
  | ',' :: rest =>
    let high := rest.takeWhile Char.isDigit
    match rest.dropWhile Char.isDigit with
    | '}' :: rest =>
      some (decimalValue low, if high.isEmpty then none else some (decimalValue high), rest)
    | _ => none
  | _ => none

/-- A repetition's bounds behind an item. -/
def quantifier? : List Char → Option (Nat × Option Nat × List Char)
  | '*' :: rest => some (0, none, rest)
  | '+' :: rest => some (1, none, rest)
  | '?' :: rest => some (0, some 1, rest)
  | '{' :: rest => bounds? rest
  | _ => none

def greed : List Char → Greed × List Char
  | '?' :: rest => (.lazy, rest)
  | '+' :: rest => (.possessive, rest)
  | rest => (.greedy, rest)

/-- Places have no repetitions. -/
def isPlace : Pattern → Bool
  | .start | .stop | .finish | .lineStart | .lineStop | .wordEdge .. => true
  | _ => false

/-! ## What is passed over -/

/-- What follows a character; characters behind backslashes do not count. -/
def after (c : Char) : List Char → Option (List Char)
  | '\\' :: _ :: rest => after c rest
  | d :: rest => if d = c then some rest else after c rest
  | [] => none

/-- Passes over comments, and over blanks where the option says so. A comment in parentheses has to
end, one behind a number sign ends with its line. -/
def skip? (options : Options) : Nat → List Char → Option (List Char)
  | fuel + 1, '(' :: '?' :: '#' :: rest => (after ')' rest).bind (skip? options fuel)
  | fuel + 1, c :: rest =>
    if options.spaced && Text.isAsciiBlank c && c.toNat < 0x1C || options.spaced && c == ' ' then
      skip? options fuel rest
    else if options.spaced && c == '#' then skip? options fuel ((after '\n' rest).getD [])
    else some (c :: rest)
  | _, text => some text

/-- Puts the repetition that follows, if any, around an item. Two repetitions in a row are
refused. -/
def quantified? (options : Options) (item : Pattern) (text : List Char) :
    Option (Pattern × List Char) := do
  let text ← skip? options text.length text
  match quantifier? text with
  | none => some (item, text)
  | some (low, high, rest) =>
    let (greed, rest) := greed rest
    let rest ← skip? options rest.length rest
    if isPlace item || (quantifier? rest).isSome || high.any (· < low) then none
    else some (.repetition low high greed item, rest)

/-! ## Groups -/

/-- A name of a group: a letter or an underscore, then word characters. -/
def isName (name : List Char) : Bool :=
  match name with
  | [] => false
  | c :: rest => Text.isWord c && !Text.isDigit c && rest.all Text.isWord

/-- What stands behind an opening parenthesis: the kind of a group. -/
inductive Opening where
  | numbered (name : List Char)
  | plain
  | atomic
  | options (value : Options)
  | ahead (negated : Bool)
  | behind (negated : Bool)
  | again (name : List Char)
  | whether (name : List Char)

/-- Letters that set options and, behind a minus sign, letters that clear some, up to a colon. -/
def openOptions? (options : Options) (text : List Char) : Option (Options × List Char) := do
  let letters := text.takeWhile (· != ':')
  let on := letters.takeWhile (· != '-')
  let off := (letters.dropWhile (· != '-')).drop 1
  if letters.isEmpty || (letters.contains '-' && off.isEmpty) || on.any off.contains then none
  else
    let options ← (← options.setAll? true on).setAll? false off
    match text.drop letters.length with
    | ':' :: rest => some (options, rest)
    | _ => none

def opening? (options : Options) : List Char → Option (Opening × List Char)
  | '?' :: ':' :: rest => some (.plain, rest)
  | '?' :: '>' :: rest => some (.atomic, rest)
  | '?' :: '=' :: rest => some (.ahead false, rest)
  | '?' :: '!' :: rest => some (.ahead true, rest)
  | '?' :: '<' :: '=' :: rest => some (.behind false, rest)
  | '?' :: '<' :: '!' :: rest => some (.behind true, rest)
  | '?' :: '(' :: rest =>
    let name := rest.takeWhile (· != ')')
    if !name.isEmpty && rest.contains ')' then some (.whether name, rest.drop (name.length + 1))
    else none
  | '?' :: 'P' :: '<' :: rest =>
    let name := rest.takeWhile (· != '>')
    if isName name && rest.contains '>' then some (.numbered name, rest.drop (name.length + 1))
    else none
  | '?' :: 'P' :: '=' :: rest =>
    let name := rest.takeWhile (· != ')')
    if isName name then some (.again name, rest.drop name.length) else none
  | '?' :: rest => (openOptions? options rest).map fun (options, rest) => (.options options, rest)
  | rest => some (.numbered [], rest)

/-- The group that a condition names. A number need not be known yet. -/
def Groups.named? (groups : Groups) (name : List Char) : Option (Nat × Groups) :=
  if isName name then (groups.names.find? (·.1 == name)).map fun (_, index) => (index, groups)
  else if name.all Char.isDigit && decimalValue name > 0 then
    let index := decimalValue name - 1
    some (index, { groups with needed := index :: groups.needed })
  else none

def closing? : List Char → Option (List Char)
  | ')' :: rest => some rest
  | _ => none

/-! ## Patterns -/

mutual

/-- Alternatives up to a closing parenthesis or the end. -/
def alternatives (options : Options) : Nat → Groups → List Char →
    Option (Pattern × Groups × List Char)
  | 0, _, _ => none
  | fuel + 1, groups, text => do
    let (first, groups, rest) ← items options fuel groups text
    match rest with
    | '|' :: rest =>
      let (others, groups, rest) ← alternatives options fuel groups rest
      some (.alt first others, groups, rest)
    | rest => some (first, groups, rest)

/-- Items in a row up to a bar, a closing parenthesis or the end. -/
def items (options : Options) : Nat → Groups → List Char → Option (Pattern × Groups × List Char)
  | 0, _, _ => none
  | fuel + 1, groups, text => do
    match ← skip? options text.length text with
    | [] => some (.empty, groups, [])
    | '|' :: rest => some (.empty, groups, '|' :: rest)
    | ')' :: rest => some (.empty, groups, ')' :: rest)
    | text =>
      let (found, groups, rest) ← item options fuel groups text
      let (found, rest) ← quantified? options found rest
      let (others, groups, rest) ← items options fuel groups rest
      some (.seq found others, groups, rest)

/-- One item without its repetition. -/
def item (options : Options) : Nat → Groups → List Char → Option (Pattern × Groups × List Char)
  | 0, _, _ => none
  | _ + 1, _, [] => none
  | fuel + 1, groups, c :: rest =>
    match c with
    | '^' => some (if options.lines then .lineStart else .start, groups, rest)
    | '$' => some (if options.lines then .lineStop else .stop, groups, rest)
    | '.' => some (.one true (if options.dotAll then [] else [.range '\n' '\n']), groups, rest)
    | '[' => do
      let (negated, rest) := match rest with
        | '^' :: rest => (true, rest)
        | rest => (false, rest)
      let (members, rest) ← classMembers? options (rest.length + 1) true rest
      some (.one negated (options.fold members), groups, rest)
    | '\\' => (escape? options groups rest).map fun (found, rest) => (found, groups, rest)
    | '(' => do
      let (kind, rest) ← opening? options rest
      match kind with
      | .again name =>
        let (_, index) ← groups.names.find? (·.1 == name)
        some (← groups.again? options index, groups, ← closing? rest)
      | .whether name =>
        let (index, groups) ← groups.named? name
        if groups.limit.any (· ≤ index) then none
        else
          let (yes, groups, rest) ← items options fuel groups rest
          match rest with
          | '|' :: rest =>
            let (no, groups, rest) ← items options fuel groups rest
            some (.whether index yes no, groups, ← closing? rest)
          | rest => some (.whether index yes .empty, groups, ← closing? rest)
      | .numbered name =>
        if groups.names.any (·.1 == name) then none
        else
          let index := groups.count
          let names := if name.isEmpty then groups.names else (name, index) :: groups.names
          let (body, groups, rest) ←
            alternatives options fuel { groups with count := index + 1, names } rest
          let closed := (index, body.width groups.width) :: groups.closed
          some (.group index body, { groups with closed }, ← closing? rest)
      | .plain => do
        let (body, groups, rest) ← alternatives options fuel groups rest
        some (.seq .empty body, groups, ← closing? rest)
      | .atomic => do
        let (body, groups, rest) ← alternatives options fuel groups rest
        some (.once body, groups, ← closing? rest)
      | .options options => do
        let (body, groups, rest) ← alternatives options fuel groups rest
        some (.seq .empty body, groups, ← closing? rest)
      | .ahead negated => do
        let (body, groups, rest) ← alternatives options fuel groups rest
        some (.ahead negated body, groups, ← closing? rest)
      | .behind negated => do
        let limit := groups.limit
        let (body, groups, rest) ← alternatives options fuel
          { groups with limit := limit.or (some groups.count) } rest
        match body.width groups.width with
        | (low, some high) =>
          if low = high then some (.behind negated low body, { groups with limit }, ← closing? rest)
          else none
        | _ => none
    | c =>
      if (quantifier? (c :: rest)).isSome then none else some (options.char c, groups, rest)

end

/-- Options for the whole pattern, which stand at its start. -/
def leading? (options : Options) : Nat → List Char → Option (Options × List Char)
  | 0, text => some (options, text)
  | fuel + 1, text => do
    match ← skip? options text.length text with
    | '(' :: '?' :: rest =>
      let letters := rest.takeWhile Char.isAlpha
      match letters, rest.drop letters.length with
      | _ :: _, ')' :: rest => leading? (← options.setAll? true letters) fuel rest
      | _, _ => some (options, '(' :: '?' :: rest)
    | text => some (options, text)

end Parser

/-- The pattern of a text and the number of its groups. -/
def ofText? (text : String) : Option (Pattern × Nat) := do
  let (options, chars) ← Parser.leading? .none text.length text.toList
  let (pattern, groups, rest) ←
    Parser.alternatives options (4 * chars.length + 4) ⟨0, [], [], [], none⟩ chars
  if rest.isEmpty && groups.needed.all (· < groups.count) then some (pattern, groups.count)
  else none

end Accounts.Pattern
