import Accounts.Pattern.Basic
import Mathlib.Data.List.TakeWhile

/-!
# What patterns match

A pattern hands every place that it leads to on to what follows, and takes the first answer. For the
patterns that routing rules are made of the places are few. A literal text leads to the place behind
it; a greedy run of a class of characters leads behind the whole run first and then, character by
character, back to behind its first one (`backoff`). What follows a run often has no answer in the
middle of it, and then only its end counts (`first?_some1_of_ends`).
-/

namespace Accounts.Pattern

variable {next : Place → Option Place} {place : Place}

namespace Place

@[simp] theorem advance_zero (place : Place) : place.advance 0 = place := rfl

@[simp] theorem rest_advance (place : Place) (n : Nat) :
    (place.advance n).rest = place.rest.drop n := rfl

@[simp] theorem position_advance (place : Place) (n : Nat) :
    (place.advance n).position = place.position + n := rfl

theorem advance_advance (place : Place) (m n : Nat) :
    (place.advance m).advance n = place.advance (m + n) := by
  simp [advance, List.take_add, Nat.add_assoc]

end Place

theorem first?_seq (first second : Pattern) (next : Place → Option Place) (place : Place) :
    (seq first second).first? next place = first.first? (second.first? next) place := rfl

/-- The place found, with a group that holds what was passed since another place. -/
def Place.hold (start : Place) (index : Nat) (found : Place) : Place :=
  { found with
    groups := (index, start.rest.take (found.position - start.position)) :: found.groups }

theorem first?_group (index : Nat) (body : Pattern) (next : Place → Option Place) (place : Place) :
    (group index body).first? next place = body.first? (fun found => next (place.hold index found))
      place := rfl

/-! ## Literal texts -/

theorem contains_range_self (c d : Char) : (CharItem.range c c).contains d = (c == d) := by
  rw [Bool.eq_iff_iff]
  simp only [CharItem.contains, Bool.and_eq_true, decide_eq_true_eq, beq_iff_eq]
  constructor
  · exact fun ⟨hlow, hhigh⟩ => Char.le_antisymm hlow hhigh
  · rintro rfl
    exact ⟨Char.le_refl c, Char.le_refl c⟩

theorem first?_char (c : Char) (next : Place → Option Place) (place : Place) :
    (char c).first? next place =
      if [c] <+: place.rest then next (place.advance 1) else none := by
  unfold char first?
  cases hrest : place.rest with
  | nil => simp
  | cons d rest => simp [contains_range_self, List.cons_prefix_cons]

/-- A literal text leads to the place behind it. -/
theorem first?_literal (text : List Char) (next : Place → Option Place) (place : Place) :
    (literal text).first? next place =
      if text <+: place.rest then next (place.advance text.length) else none := by
  induction text generalizing place with
  | nil => simp [literal, first?]
  | cons c text ih =>
      unfold literal first?
      rw [first?_char]
      cases hrest : place.rest with
      | nil => simp
      | cons d rest =>
          by_cases hc : c = d
          · simp [hc, ih, hrest, List.cons_prefix_cons, Place.advance_advance, Nat.add_comm]
          · simp [hc, List.cons_prefix_cons]

/-! ## Runs -/

/-- A character is in one of the items or, negated, in none. -/
def admits (negated : Bool) (items : List CharItem) (c : Char) : Bool :=
  items.any (·.contains c) != negated

theorem first?_one (negated : Bool) (items : List CharItem) (next : Place → Option Place)
    (place : Place) :
    (one negated items).first? next place =
      match place.rest with
      | c :: _ => if admits negated items c then next (place.advance 1) else none
      | [] => none := rfl

/-- Where a run ends, its characters are those that are taken from the front. -/
theorem takeWhile_run {p : Char → Bool} {run tail : List Char} (hrun : ∀ c ∈ run, p c = true)
    (htail : ∀ c ∈ tail.head?, ¬p c = true) : (run ++ tail).takeWhile p = run := by
  rw [List.takeWhile_append_of_pos hrun]
  cases tail with
  | nil => simp
  | cons c tail => simp [List.takeWhile_cons_of_neg (htail c rfl)]

/-- The first answer behind `n` characters, behind one less, and so on down to none. -/
def backoff (next : Place → Option Place) (place : Place) : Nat → Option Place
  | 0 => next place
  | n + 1 => next (place.advance (n + 1)) <|> backoff next place n

/-- The last place to be tried may be split off. -/
theorem backoff_succ (next : Place → Option Place) (place : Place) (n : Nat) :
    backoff next place (n + 1) = (backoff next (place.advance 1) n <|> next place) := by
  induction n with
  | zero => rfl
  | succ n ih =>
      have hstep : backoff next (place.advance 1) (n + 1)
          = (next (place.advance (n + 1 + 1)) <|> backoff next (place.advance 1) n) := by
        rw [backoff, Place.advance_advance, Nat.add_comm 1]
      rw [backoff, ih, hstep]
      cases next (place.advance (n + 1 + 1)) <;> rfl

/-- Where the end of a run has an answer if any place before it has one, the end decides. -/
theorem backoff_of_ends {n : Nat}
    (h : next (place.advance n) = none → ∀ k < n, next (place.advance k) = none) :
    backoff next place n = next (place.advance n) := by
  cases hend : next (place.advance n) with
  | some found =>
      cases n with
      | zero => exact hend
      | succ n => rw [backoff, hend]; rfl
  | none =>
      have hnone : ∀ k ≤ n, backoff next place k = none := by
        intro k hk
        induction k with
        | zero =>
            rcases Nat.eq_zero_or_pos n with rfl | hn
            · exact hend
            · exact h hend 0 hn
        | succ k ih =>
            rw [backoff, ih (Nat.le_of_succ_le hk)]
            rcases Nat.lt_or_eq_of_le hk with hk | rfl
            · rw [h hend _ hk]; rfl
            · rw [hend]; rfl
      exact hnone n (Nat.le_refl n)

/-- Rounds of a class of characters lead behind the whole run first. The fuel lasts for the rest of
the text, and no round stays where it was. -/
theorem rounds_one {negated : Bool} {items : List CharItem} {fuel done : Nat} {last : Option Nat}
    (hfuel : place.rest.length < fuel) (hlast : last ≠ some place.position) :
    rounds (one negated items).first? none .greedy next fuel 0 done last place =
      backoff next place (place.rest.takeWhile (admits negated items)).length := by
  induction hrest : place.rest generalizing place fuel done last with
  | nil =>
      obtain ⟨fuel, rfl⟩ := Nat.exists_eq_succ_of_ne_zero (Nat.ne_zero_of_lt hfuel)
      simp [rounds, first?_one, hrest, hlast, backoff]
  | cons c rest ih =>
      obtain ⟨fuel, rfl⟩ := Nat.exists_eq_succ_of_ne_zero (Nat.ne_zero_of_lt hfuel)
      rw [hrest, List.length_cons] at hfuel
      by_cases hc : admits negated items c = true
      · have hmoved : some place.position ≠ some (place.advance 1).position := by simp
        have hfuel' : (place.advance 1).rest.length < fuel := by
          rw [Place.rest_advance, hrest, List.drop_one, List.tail_cons]
          exact Nat.succ_lt_succ_iff.mp hfuel
        have hnext := @ih (place.advance 1) fuel (done + 1) _ hfuel' hmoved (by simp [hrest])
        rw [List.takeWhile_cons_of_pos hc, List.length_cons, backoff_succ, ← hnext]
        simp [rounds, first?_one, hrest, hlast, hc]
      · rw [List.takeWhile_cons_of_neg hc]
        simp [rounds, first?_one, hrest, hlast, hc, backoff]

/-- The first round of a repetition is needed. -/
theorem first?_some1 (body : Pattern) (next : Place → Option Place) (place : Place) :
    (some1 body).first? next place =
      body.first? (rounds body.first? none .greedy next (1 + place.rest.length + 1) 0 1 none)
        place := rfl

/-- A run of at least one character of a class leads to its end, if the end has an answer whenever a
place inside the run has one. -/
theorem first?_some1_of_ends {negated : Bool} {items : List CharItem} {run tail : List Char}
    (hrest : place.rest = run ++ tail) (hrun : ∀ c ∈ run, admits negated items c = true)
    (htail : ∀ c ∈ tail.head?, ¬admits negated items c = true)
    (hends : next (place.advance run.length) = none →
      ∀ k, 0 < k → k < run.length → next (place.advance k) = none) :
    (some1 (one negated items)).first? next place =
      if run = [] then none else next (place.advance run.length) := by
  rw [first?_some1, first?_one, hrest]
  cases run with
  | nil =>
      cases tail with
      | nil => rfl
      | cons c tail => exact if_neg (htail c rfl)
  | cons c run =>
      obtain ⟨hc, hrun⟩ := List.forall_mem_cons.mp hrun
      have hadvance : ∀ k, (place.advance 1).advance k = place.advance (k + 1) := fun k => by
        rw [Place.advance_advance, Nat.add_comm]
      have htake : ((place.advance 1).rest.takeWhile (admits negated items)) = run := by
        rw [Place.rest_advance, hrest]
        exact takeWhile_run hrun htail
      have hfuel : (place.advance 1).rest.length < 1 + place.rest.length + 1 := by
        rw [Place.rest_advance, List.length_drop]
        omega
      have hback : backoff next (place.advance 1) run.length
          = next ((place.advance 1).advance run.length) := by
        refine backoff_of_ends fun hend k hk => ?_
        rw [hadvance] at hend ⊢
        exact hends hend (k + 1) (Nat.succ_pos k) (Nat.succ_lt_succ hk)
      rw [if_neg (List.cons_ne_nil c run)]
      change (if admits negated items c = true then _ else none) = _
      rw [if_pos hc, ← hrest, rounds_one hfuel (by simp), htake, hback, hadvance, List.length_cons]

/-! ## Lines -/

/-- The text is what stands on a line: there is nothing more, or a line feed that ends it. -/
def IsLine (text line : List Char) : Prop := line = text ∨ line = text ++ ['\n']

instance (text : List Char) : DecidablePred (IsLine text) :=
  fun _ => inferInstanceAs (Decidable (_ ∨ _))

theorem isLine_append_iff {front text line : List Char} :
    IsLine (front ++ text) (front ++ line) ↔ IsLine text line := by
  simp only [IsLine, List.append_assoc, List.append_cancel_left_eq]

theorem IsLine.starts {text line : List Char} (h : IsLine text line) : text <+: line := by
  rcases h with rfl | rfl
  · exact List.prefix_rfl
  · exact List.prefix_append text _

theorem IsLine.mem {text line : List Char} (h : IsLine text line) {c : Char} (hc : c ∈ line) :
    c ∈ text ∨ c = '\n' := by
  rcases h with rfl | rfl
  · exact Or.inl hc
  · exact (List.mem_append.mp hc).imp_right List.mem_singleton.mp

/-- Texts without line feeds can be told apart on a line. -/
theorem IsLine.unique {text text' line : List Char} (h : IsLine text line)
    (h' : IsLine text' line) (hplain : '\n' ∉ text) (hplain' : '\n' ∉ text') : text = text' := by
  rcases h with rfl | rfl <;> rcases h' with h' | h'
  · exact h'
  · exact absurd (h' ▸ List.mem_append_right text' List.mem_cons_self) hplain
  · exact absurd (h' ▸ List.mem_append_right text List.mem_cons_self) hplain'
  · exact List.append_cancel_right h'

/-- A pattern that matches the rest of a line, if a text is on it, and nothing else. -/
def Closes (pattern : Pattern) (text : List Char) : Prop :=
  ∀ next place, pattern.first? next place =
    if IsLine text place.rest then next (place.advance text.length) else none

theorem closes_stop : (seq stop empty).Closes [] := fun _ _ => rfl

theorem closes_literal (text : List Char) : (seq (literal text) (seq stop empty)).Closes text := by
  intro next place
  rw [first?_seq, first?_literal, closes_stop, Place.rest_advance]
  by_cases hfront : text <+: place.rest
  · obtain ⟨rest, hrest⟩ := hfront
    have hline : IsLine text (text ++ rest) ↔ IsLine [] rest := by
      have h := @isLine_append_iff text [] rest
      rwa [List.append_nil] at h
    rw [if_pos ⟨rest, hrest⟩, ← hrest, List.drop_left]
    simp only [hline]
    rfl
  · rw [if_neg hfront, if_neg fun hline => hfront hline.starts]

/-! ## Searching -/

/-- A pattern that begins at the start of the text is not found behind it. -/
theorem searchFrom_start_of_pos (body : Pattern) {position : Nat} (h : 0 < position)
    (passed rest : List Char) : (seq start body).searchFrom position passed rest = none := by
  have hmatch : ∀ position passed rest, 0 < position →
      (seq start body).matchAt? ⟨position, passed, rest, []⟩ = none :=
    fun position passed rest h => if_neg (Nat.ne_of_gt h)
  induction rest generalizing position passed with
  | nil => exact hmatch position passed [] h
  | cons c rest ih =>
      rw [searchFrom, hmatch position passed (c :: rest) h, ih (Nat.succ_pos position)]
      rfl

theorem searchFrom_start (body : Pattern) (text : List Char) :
    (seq start body).searchFrom 0 [] text = body.matchAt? ⟨0, [], text, []⟩ := by
  cases text with
  | nil => rfl
  | cons c rest =>
      rw [searchFrom, searchFrom_start_of_pos body Nat.one_pos]
      change (body.matchAt? _ <|> none) = _
      cases body.matchAt? _ <;> rfl

/-- A line with nothing but one text on it. -/
theorem captures?_of_closes {pattern : Pattern} {text : List Char} (h : pattern.Closes text)
    (line : List Char) :
    (seq start pattern).captures? 0 line = if IsLine text line then some [] else none := by
  rw [captures?, searchFrom_start, matchAt?, h]
  by_cases hline : IsLine text line
  · rw [if_pos hline, if_pos hline]; rfl
  · rw [if_neg hline, if_neg hline]; rfl

/-! ## A run between two texts -/

/-- A literal text, a run of characters of a class, which is captured, and what closes the line. -/
def around (front : List Char) (negated : Bool) (items : List CharItem) (tail : Pattern) :
    Pattern :=
  seq start (seq (literal front) (seq (group 0 (some1 (one negated items))) tail))

variable {front back run rest : List Char} {negated : Bool} {items : List CharItem} {tail : Pattern}

/-- The run is captured as a whole, if what stands behind it does not begin inside it. -/
theorem captures?_around_append (htail : tail.Closes back)
    (hends : ∀ inner ≠ [], (∀ c ∈ inner, admits negated items c = true) →
      IsLine back (inner ++ rest) → IsLine back rest)
    (hrun : ∀ c ∈ run, admits negated items c = true)
    (hrest : ∀ c ∈ rest.head?, ¬admits negated items c = true) :
    (around front negated items tail).captures? 1 (front ++ (run ++ rest)) =
      if run ≠ [] ∧ IsLine back rest then some [run] else none := by
  let place : Place := Place.advance ⟨0, [], front ++ (run ++ rest), []⟩ front.length
  have hplace : place.rest = run ++ rest := List.drop_left
  -- what comes behind the run, seen from a place inside it
  let next : Place → Option Place := fun found =>
    tail.first? some (place.hold 0 found)
  have hnext : ∀ k, next (place.advance k) =
      if IsLine back ((run ++ rest).drop k) then
        some ((place.hold 0 (place.advance k)).advance back.length)
      else none := by
    intro k
    rw [← hplace]
    exact htail some (place.hold 0 (place.advance k))
  have hfound : (some1 (one negated items)).first? next place =
      if run = [] then none else next (place.advance run.length) := by
    refine first?_some1_of_ends hplace hrun hrest fun hend k _ hk => ?_
    rw [hnext, List.drop_left] at hend
    rw [hnext, List.drop_append_of_le_length (Nat.le_of_lt hk), if_neg]
    intro hline
    have hinner : run.drop k ≠ [] := by
      rw [Ne, List.drop_eq_nil_iff]
      exact Nat.not_le_of_lt hk
    rw [if_pos (hends _ hinner (fun c hc => hrun c (List.mem_of_mem_drop hc)) hline)] at hend
    cases hend
  rw [captures?, around, searchFrom_start, matchAt?, first?_seq, first?_literal,
    if_pos (List.prefix_append front _), first?_seq, first?_group]
  change ((some1 (one negated items)).first? next place).map _ = _
  rw [hfound, hnext, List.drop_left]
  by_cases hempty : run = []
  · rw [if_pos hempty, if_neg fun h => h.1 hempty]
    rfl
  · by_cases hline : IsLine back rest
    · rw [if_neg hempty, if_pos hline, if_pos ⟨hempty, hline⟩]
      have hheld : ((place.hold 0 (place.advance run.length)).advance back.length).group? 0
          = some run := by
        change some (place.rest.take (place.position + run.length - place.position)) = some run
        rw [Nat.add_sub_cancel_left, hplace, List.take_left]
      change some ([0].filterMap _) = _
      rw [List.filterMap_cons_some hheld]
      rfl
    · rw [if_neg hempty, if_neg hline, if_neg fun h => hline h.2]
      rfl

theorem captures?_around_eq_none {line : List Char} (h : ¬front <+: line) :
    (around front negated items tail).captures? 1 line = none := by
  rw [captures?, around, searchFrom_start, matchAt?, first?_seq, first?_literal, if_neg h]
  rfl

/-- What is captured between two texts, if the run ends where what stands behind it begins. -/
theorem captures?_around_eq_some_iff {line : List Char} {groups : List (List Char)}
    (htail : tail.Closes back)
    (hends : ∀ inner ≠ [], ∀ rest, (∀ c ∈ inner, admits negated items c = true) →
      IsLine back (inner ++ rest) → IsLine back rest) :
    (around front negated items tail).captures? 1 line = some groups ↔
      ∃ run rest, groups = [run] ∧ run ≠ [] ∧ (∀ c ∈ run, admits negated items c = true)
        ∧ (∀ c ∈ rest.head?, ¬admits negated items c = true) ∧ IsLine back rest
        ∧ line = front ++ (run ++ rest) := by
  have hruns : ∀ run rest, (∀ c ∈ run, admits negated items c = true) →
      (∀ c ∈ rest.head?, ¬admits negated items c = true) →
      (around front negated items tail).captures? 1 (front ++ (run ++ rest)) =
        if run ≠ [] ∧ IsLine back rest then some [run] else none :=
    fun run rest => captures?_around_append htail fun inner hinner => hends inner hinner rest
  constructor
  · intro h
    by_cases hfront : front <+: line
    · obtain ⟨text, rfl⟩ := hfront
      have hrun : ∀ c ∈ text.takeWhile (admits negated items), admits negated items c = true :=
        fun c hc => List.mem_takeWhile_imp hc
      have hrest : ∀ c ∈ (text.dropWhile (admits negated items)).head?,
          ¬admits negated items c = true := by
        intro c hc hadmits
        rw [← List.find?_not_eq_head?_dropWhile] at hc
        have hnot := List.find?_some hc
        rw [hadmits] at hnot
        cases hnot
      rw [← List.takeWhile_append_dropWhile (p := admits negated items) (l := text),
        hruns _ _ hrun hrest] at h
      split at h
      · rename_i hfound
        exact ⟨_, _, (Option.some.inj h).symm, hfound.1, hrun, hrest, hfound.2,
          by rw [List.takeWhile_append_dropWhile]⟩
      · cases h
    · rw [captures?_around_eq_none hfront] at h
      cases h
  · rintro ⟨run, rest, rfl, hne, hrun, hrest, hline, rfl⟩
    rw [hruns run rest hrun hrest, if_pos ⟨hne, hline⟩]

end Accounts.Pattern
