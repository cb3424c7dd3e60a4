import Accounts.Route.Rules

/-!
# The order of rules

The route of a path is that of the first rule that finds one, as long as no rule asks for a group
that holds nothing. Rules behind others only get the paths that those reject
(`Rules.extract_append`), so a rule that rejects a path might as well not be there. Where rules that
find routes agree, their order does not matter (`Rules.resolve?_eq_some_iff`), and if one of any two
rejects a path they may stand in any order at all (`Rules.extract_perm`).
-/

namespace Accounts

/-- The route that an extractor has found. -/
def Extraction.route? {ρ : Type} : Extraction ρ → Option ρ
  | route value => some value
  | rejected | missingGroup => none

theorem Extraction.route?_eq_some_iff {ρ : Type} {found : Extraction ρ} {value : ρ} :
    found.route? = some value ↔ found = .route value := by
  cases found <;> simp [route?]

/-- What was found or, after a rejection, what is found next. -/
def Extraction.orElse {ρ : Type} (found next : Extraction ρ) : Extraction ρ :=
  match found with
  | rejected => next
  | route _ | missingGroup => found

/-- A rule finds a route where its pattern matches and its extractor makes the route of the
groups. -/
theorem Rule.apply_eq_route_iff {ρ : Type} {rule : Rule ρ} {path : List Char} {value : ρ} :
    rule.apply path = .route value ↔ ∃ groups,
      rule.pattern.captures? rule.groupCount path = some groups
        ∧ rule.extract groups = .route value := by
  unfold apply
  cases rule.pattern.captures? rule.groupCount path with
  | none => simp
  | some groups => simp

/-- A rule rejects a path unless its pattern matches and its extractor takes the groups. -/
theorem Rule.apply_eq_rejected_iff {ρ : Type} {rule : Rule ρ} {path : List Char} :
    rule.apply path = .rejected ↔
      ∀ groups, rule.pattern.captures? rule.groupCount path = some groups →
        rule.extract groups = .rejected := by
  unfold apply
  cases rule.pattern.captures? rule.groupCount path with
  | none => simp
  | some groups => simp

/-- One of two rules rejects a path. -/
def Rule.ApartAt {ρ : Type} (path : List Char) (rule other : Rule ρ) : Prop :=
  rule.apply path = .rejected ∨ other.apply path = .rejected

namespace Rules

variable {ρ : Type} {rules rules' front back : Rules ρ} {path : List Char}

theorem extract_cons (rule : Rule ρ) (rules : Rules ρ) (path : List Char) :
    extract (rule :: rules) path = (rule.apply path).orElse (rules.extract path) := by
  rw [extract]
  cases rule.apply path <;> rfl

/-- Rules that stand behind others get what those reject. -/
theorem extract_append (front back : Rules ρ) (path : List Char) :
    extract (front ++ back) path = (front.extract path).orElse (back.extract path) := by
  induction front with
  | nil => rfl
  | cons rule front ih =>
      rw [List.cons_append, extract_cons, extract_cons, ih]
      cases rule.apply path <;> rfl

/-- The order of rules does not matter to a path if of any two of them one rejects it. -/
theorem extract_perm (hperm : rules.Perm rules') (hapart : rules.Pairwise (Rule.ApartAt path)) :
    rules.extract path = rules'.extract path := by
  induction hperm with
  | nil => rfl
  | cons rule _ ih => rw [extract_cons, extract_cons, ih hapart.of_cons]
  | swap rule other rest =>
      have hone : Rule.ApartAt path other rule :=
        List.rel_of_pairwise_cons hapart List.mem_cons_self
      simp only [extract_cons]
      rcases hone with h | h
      · rw [h]
        rfl
      · rw [h]
        rfl
  | trans hperm _ ih ih' =>
      have hapart' := hapart.perm hperm fun h => Or.symm h
      rw [ih hapart, ih' hapart']

/-- No rule asks for a group that holds nothing. -/
def Complete (rules : Rules ρ) (path : List Char) : Prop :=
  ∀ rule ∈ rules, rule.apply path ≠ .missingGroup

theorem resolve?_eq (rules : Rules ρ) (path : List Char) :
    rules.resolve? path = (rules.extract path).route? := by
  unfold resolve?
  cases rules.extract path <;> rfl

theorem Complete.extract_ne (h : rules.Complete path) : rules.extract path ≠ .missingGroup := by
  induction rules with
  | nil => exact nofun
  | cons rule rules ih =>
      obtain ⟨hrule, hrules⟩ := List.forall_mem_cons.mp h
      rw [extract_cons]
      cases happly : rule.apply path with
      | route value => exact nofun
      | rejected => exact ih hrules
      | missingGroup => exact absurd happly hrule

/-- Rules in front decide where they find a route, and the rules behind them elsewhere. -/
theorem resolve?_append (h : front.Complete path) :
    resolve? (front ++ back) path = (front.resolve? path).or (back.resolve? path) := by
  rw [resolve?_eq, resolve?_eq, resolve?_eq, extract_append]
  cases hfront : front.extract path with
  | route value => rfl
  | rejected => rfl
  | missingGroup => exact absurd hfront h.extract_ne

theorem resolve?_eq_findSome? (h : rules.Complete path) :
    rules.resolve? path = rules.findSome? fun rule => (rule.apply path).route? := by
  induction rules with
  | nil => rfl
  | cons rule rules ih =>
      obtain ⟨hrule, hrules⟩ := List.forall_mem_cons.mp h
      rw [List.findSome?_cons, ← ih hrules]
      unfold resolve?
      rw [extract]
      cases happly : rule.apply path with
      | route value => rfl
      | rejected => rfl
      | missingGroup => exact absurd happly hrule

/-- If all rules that find a route find the same one, then that is the route of the path. -/
theorem resolve?_eq_some_iff (h : rules.Complete path)
    (hunique : ∀ rule ∈ rules, ∀ other ∈ rules, ∀ value value', rule.apply path = .route value →
      other.apply path = .route value' → value = value') {value : ρ} :
    rules.resolve? path = some value ↔ ∃ rule ∈ rules, rule.apply path = .route value := by
  rw [resolve?_eq_findSome? h]
  constructor
  · intro hfound
    obtain ⟨rule, hmem, hroute⟩ := List.exists_of_findSome?_eq_some hfound
    exact ⟨rule, hmem, Extraction.route?_eq_some_iff.mp hroute⟩
  · rintro ⟨rule, hmem, hroute⟩
    cases hfound : rules.findSome? fun rule => (rule.apply path).route? with
    | none =>
        have hnone := List.findSome?_eq_none_iff.mp hfound rule hmem
        rw [hroute] at hnone
        cases hnone
    | some value' =>
        obtain ⟨other, hother, hvalue⟩ := List.exists_of_findSome?_eq_some hfound
        rw [hunique rule hmem other hother value value' hroute
          (Extraction.route?_eq_some_iff.mp hvalue)]

end Rules

end Accounts
