import Accounts.Text.Table
import Mathlib.Data.List.TakeWhile

/-!
# Splitting texts

What splitting at a separator makes of a text that is put together: a text without the separator
is one field, and a separator ends the field in front of it. The text up to the first separator is
found by the same.
-/

namespace Accounts.Text

variable {α : Type} [DecidableEq α]

theorem splitOn_cons_self (sep : α) (rest : List α) :
    splitOn sep (sep :: rest) = [] :: splitOn sep rest := by
  rw [splitOn]
  split
  · rename_i h
    exact absurd h (splitOn_ne_nil sep rest)
  · rename_i h
    rw [if_pos rfl, h]

theorem splitOn_cons_of_ne {sep c : α} (hc : c ≠ sep) {rest field : List α}
    {fields : List (List α)} (h : splitOn sep rest = field :: fields) :
    splitOn sep (c :: rest) = (c :: field) :: fields := by
  rw [splitOn, h]
  exact if_neg hc

theorem splitOn_of_not_mem {sep : α} {text : List α} (h : sep ∉ text) :
    splitOn sep text = [text] := by
  induction text with
  | nil => rfl
  | cons c rest ih =>
      obtain ⟨hc, hrest⟩ := List.ne_and_not_mem_of_not_mem_cons h
      exact splitOn_cons_of_ne hc.symm (ih hrest)

/-- A separator ends the field in front of it. -/
theorem splitOn_append_sep {sep : α} {text : List α} (h : sep ∉ text) (rest : List α) :
    splitOn sep (text ++ sep :: rest) = text :: splitOn sep rest := by
  induction text with
  | nil => exact splitOn_cons_self sep rest
  | cons c front ih =>
      obtain ⟨hc, hfront⟩ := List.ne_and_not_mem_of_not_mem_cons h
      exact splitOn_cons_of_ne hc.symm (ih hfront)

/-- Nothing but separators is lost. -/
theorem mem_splitOn {sep c : α} {text : List α} (h : c ∈ text) :
    c = sep ∨ ∃ field ∈ splitOn sep text, c ∈ field := by
  induction text with
  | nil => cases h
  | cons first rest ih =>
      by_cases hfirst : first = sep
      · subst hfirst
        rw [splitOn_cons_self]
        rcases List.mem_cons.mp h with rfl | h
        · exact Or.inl rfl
        · refine (ih h).imp_right fun ⟨field, hfield, hc⟩ => ?_
          exact ⟨field, List.mem_cons_of_mem _ hfield, hc⟩
      · obtain ⟨field, fields, hrest⟩ := List.exists_cons_of_ne_nil (splitOn_ne_nil sep rest)
        rw [splitOn_cons_of_ne hfirst hrest]
        rcases List.mem_cons.mp h with rfl | h
        · exact Or.inr ⟨c :: field, List.mem_cons_self, List.mem_cons_self⟩
        · refine (ih h).imp_right fun ⟨other, hother, hc⟩ => ?_
          rcases List.mem_cons.mp (hrest ▸ hother) with rfl | hother
          · exact ⟨first :: other, List.mem_cons_self, List.mem_cons_of_mem _ hc⟩
          · exact ⟨other, List.mem_cons_of_mem _ hother, hc⟩

/-- There is one field more than there are separators. -/
theorem length_splitOn (sep : α) (text : List α) :
    (splitOn sep text).length = text.count sep + 1 := by
  induction text with
  | nil => rfl
  | cons c rest ih =>
      by_cases hc : c = sep
      · subst hc
        rw [splitOn_cons_self, List.length_cons, ih, List.count_cons_self]
      · obtain ⟨field, fields, hrest⟩ := List.exists_cons_of_ne_nil (splitOn_ne_nil sep rest)
        rw [splitOn_cons_of_ne hc hrest, List.count_cons_of_ne hc, ← ih, hrest]
        rfl

/-- The fields with separators between them are the text. -/
theorem intercalate_splitOn (sep : α) (text : List α) :
    [sep].intercalate (splitOn sep text) = text := by
  induction text with
  | nil => rfl
  | cons c rest ih =>
      obtain ⟨field, fields, hrest⟩ := List.exists_cons_of_ne_nil (splitOn_ne_nil sep rest)
      rw [hrest] at ih
      by_cases hc : c = sep
      · rw [hc, splitOn_cons_self, hrest, List.intercalate_cons_cons, ih]
        rfl
      · rw [splitOn_cons_of_ne hc hrest]
        cases fields with
        | nil =>
            rw [List.intercalate_singleton] at ih ⊢
            rw [ih]
        | cons next more =>
            rw [List.intercalate_cons_cons] at ih ⊢
            rw [← ih]
            rfl

/-! ## The text up to a separator -/

theorem dropWhile_ne_of_not_mem {sep : α} {text : List α} (h : sep ∉ text) :
    text.dropWhile (· != sep) = [] := by
  refine List.dropWhile_eq_nil_iff.mpr fun c hc => ?_
  rw [bne_iff_ne]
  rintro rfl
  exact h hc

theorem dropWhile_ne_append {sep : α} {front : List α} (h : sep ∉ front)
    (back : List α) : (front ++ sep :: back).dropWhile (· != sep) = sep :: back := by
  have hne : ∀ c ∈ front, (c != sep) = true := fun c hc => bne_iff_ne.mpr fun heq => h (heq ▸ hc)
  rw [List.dropWhile_append_of_pos hne]
  exact List.dropWhile_cons_of_neg (by simp)

theorem takeWhile_ne_append {sep : α} {front : List α} (h : sep ∉ front)
    (back : List α) : (front ++ sep :: back).takeWhile (· != sep) = front := by
  have hne : ∀ c ∈ front, (c != sep) = true := fun c hc => bne_iff_ne.mpr fun heq => h (heq ▸ hc)
  rw [List.takeWhile_append_of_pos hne]
  have hnil : (sep :: back).takeWhile (· != sep) = [] := List.takeWhile_cons_of_neg (by simp)
  rw [hnil, List.append_nil]

end Accounts.Text
