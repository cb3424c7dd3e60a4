import Accounts.Pattern.Basic

/-!
# Routing rules

A rule is a pattern and an extractor that turns what the groups hold into a route. Rules are tried
in their order. A rule that matches may still reject the path, and then the rules behind it get
their turn; only a rule whose extractor asks for a group that did not take part ends the search
without a route.
-/

namespace Accounts

/-- What an extractor makes of the groups. -/
inductive Extraction (ρ : Type) where
  | route (value : ρ)
  | rejected
  /-- The extractor needs a group that holds nothing. -/
  | missingGroup
  deriving DecidableEq, Repr

structure Rule (ρ : Type) where
  pattern : Pattern
  groupCount : Nat
  extract : List (List Char) → Extraction ρ

abbrev Rules (ρ : Type) := List (Rule ρ)

namespace Rule

/-- A rule that maps every matching path to one route. -/
def constant (pattern : Pattern) (groupCount : Nat) (value : ρ) : Rule ρ :=
  ⟨pattern, groupCount, fun _ => .route value⟩

/-- What a rule makes of a path. -/
def apply (rule : Rule ρ) (path : List Char) : Extraction ρ :=
  match rule.pattern.captures? rule.groupCount path with
  | some groups => rule.extract groups
  | none => .rejected

end Rule

namespace Rules

/-- The route of a path: that of the first rule that does not reject it. -/
def extract (rules : Rules ρ) (path : List Char) : Extraction ρ :=
  match rules with
  | [] => .rejected
  | rule :: rest =>
    match rule.apply path with
    | .rejected => extract rest path
    | found => found

/-- The route of a path, if it has one. -/
def resolve? (rules : Rules ρ) (path : List Char) : Option ρ :=
  match rules.extract path with
  | .route value => some value
  | _ => none

end Rules

end Accounts
