import Accounts.Json.Basic
import Accounts.Proofs.Route.Grammar

/-!
# Precedence among rules

A list of rules is a first list with a second one behind it, and the second one only gets what the
first rejects. So a rule that has nothing to say of a path makes no difference to it, and one that
finds anything at all, be it an empty text or zero, keeps the rules behind it from being asked. The
rules of the application reject each other's paths (`Route.table_apart`), which is why they may
stand in any order.
-/

namespace Accounts

/-- Rules take precedence over those behind them. Whether a rule does not match, or matches and does
not take the groups, the path is left to the others. The rules of the application find the same
routes in every order. -/
theorem rule_precedence :
    (∀ (ρ : Type) (front back : Rules ρ) (path : List Char),
        Rules.extract (front ++ back) path = (front.extract path).orElse (back.extract path)
          ∧ (front.Complete path →
            Rules.resolve? (front ++ back) path
              = (front.resolve? path).or (back.resolve? path)))
      ∧ (∀ (ρ : Type) (front back : Rules ρ) (rule : Rule ρ) (path : List Char),
        (∀ groups, rule.pattern.captures? rule.groupCount path = some groups →
          rule.extract groups = .rejected) →
        Rules.extract (front ++ rule :: back) path = Rules.extract (front ++ back) path)
      ∧ (∀ (ρ : Type) (front back : Rules ρ) (rule : Rule ρ) (path : List Char)
          (groups : List (List Char)) (value : ρ),
        front.extract path = .rejected →
        rule.pattern.captures? rule.groupCount path = some groups →
        rule.extract groups = .route value →
        Rules.resolve? (front ++ rule :: back) path = some value)
      ∧ ∀ (rules : Rules Route) (path : List Char), rules.Perm Route.table →
        rules.extract path = Route.table.extract path
          ∧ rules.resolve? path = Route.ofPath? path := by
  refine ⟨fun ρ front back path => ⟨Rules.extract_append front back path, Rules.resolve?_append⟩,
    ?_, ?_, ?_⟩
  · intro ρ front back rule path hrejects
    have hrule : rule.apply path = .rejected := Rule.apply_eq_rejected_iff.mpr hrejects
    rw [Rules.extract_append, Rules.extract_append, Rules.extract_cons, hrule]
    rfl
  · intro ρ front back rule path groups value hfront hcaptures hroute
    have hrule : rule.apply path = .route value :=
      Rule.apply_eq_route_iff.mpr ⟨groups, hcaptures, hroute⟩
    rw [Rules.resolve?_eq, Rules.extract_append, hfront, Rules.extract_cons, hrule]
    rfl
  · intro rules path hperm
    have hextract : rules.extract path = Route.table.extract path :=
      (Rules.extract_perm hperm.symm (Route.table_apart path)).symm
    exact ⟨hextract, by rw [Route.ofPath?, Rules.resolve?_eq, Rules.resolve?_eq, hextract]⟩

/-- What counts as false is found like anything else, behind a rule that matches and finds nothing.
The rules of the application may be turned around. -/
theorem rule_precedence_of_false :
    let number := Route.whole [.literal "/n/".toList, Route.digits]
    let refusing : Rule Json := ⟨number, 1, fun _ => .rejected⟩
    let falsy : Rule Json := .constant number 1 (.bool false)
    let later : Rule Json := .constant number 1 (.text "later")
    let path := "/n/7".toList
    (Rules.resolve? [refusing, falsy, later] path = some (.bool false)
        ∧ (Json.bool false).truthy = false)
      ∧ Rules.extract [refusing, later] path = .route (.text "later")
      ∧ Rules.resolve? ([refusing] ++ [later]) path = some (.text "later")
      ∧ Rules.resolve? Route.table.reverse "/users/7".toList = some ⟨.user, .id 7⟩ := by
  intro number refusing falsy later path
  obtain ⟨hjoined, hdeleted, hfound, hreordered⟩ := rule_precedence
  refine ⟨⟨hfound Json [refusing] [later] falsy path [['7']] (.bool false) rfl rfl rfl, rfl⟩,
    (hdeleted Json [] [later] refusing path fun _ _ => rfl).trans rfl, ?_, ?_⟩
  · have hcomplete : Rules.Complete [refusing] path := by
      intro rule hmem
      obtain rfl := List.mem_singleton.mp hmem
      exact nofun
    exact ((hjoined Json [refusing] [later] path).2 hcomplete).trans rfl
  · exact (hreordered Route.table.reverse _ (List.reverse_perm _)).2.trans rfl

end Accounts
