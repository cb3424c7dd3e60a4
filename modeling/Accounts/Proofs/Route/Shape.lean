import Accounts.Proofs.Pattern
import Accounts.Proofs.Text.Numeral
import Accounts.Route.Table
import Mathlib.Data.Nat.Digits.Defs

/-!
# The shapes of paths

A path of the application is a fixed text, or has a number between two texts, or a name behind one.
`Shape.Reads` says which parameter a path of a shape has. A path does not have two shapes that can
be told apart (`Shape.Apart.not_reads`), and of one shape it has one parameter
(`Shape.Reads.unique`).
-/

namespace Accounts

open Pattern (IsLine)
open Text (isDigit numeralValue)

/-- What the paths of a kind of route look like. -/
inductive Shape where
  | fixed (path : String)
  /-- A number stands between two texts. -/
  | numbered (front back : String)
  /-- A name stands behind a text. -/
  | named (front : String)
  deriving DecidableEq, Repr

/-- The parameter in a path of a shape. A line feed at the end of a path does not count, but it is
part of a name. A number may be written with digits of any script and with zeros in front. -/
inductive Shape.Reads : Shape → List Char → RouteParam → Prop where
  | fixed {text : String} {path : List Char} (hpath : IsLine text.toList path) :
      Reads (.fixed text) path .absent
  | numbered {front back : String} {digits path : List Char} (hne : digits ≠ [])
      (hdigits : ∀ c ∈ digits, isDigit c = true) (hlength : digits.length ≤ 4300)
      (hvalue : numeralValue digits ≤ 2 ^ 31 - 1)
      (hpath : IsLine (front.toList ++ (digits ++ back.toList)) path) :
      Reads (.numbered front back) path (.id (numeralValue digits))
  | named {front : String} {name : List Char} (hne : name ≠ []) (hname : '/' ∉ name) :
      Reads (.named front) (front.toList ++ name) (.text name)

namespace Shape

/-- The texts of a shape have no digits where a number could begin or go on, and no line feeds where
a line ends. -/
def Plain : Shape → Prop
  | fixed text => text.toList.any isDigit = false ∧ '\n' ∉ text.toList
  | numbered front back => front.toList.any isDigit = false
      ∧ (back.toList ++ ['\n']).head?.any isDigit = false ∧ '\n' ∉ back.toList
  | named _ => True

instance : DecidablePred Plain
  | fixed _ => inferInstanceAs (Decidable (_ ∧ _))
  | numbered _ _ => inferInstanceAs (Decidable (_ ∧ _ ∧ _))
  | named _ => inferInstanceAs (Decidable True)

/-- Shapes that can be told apart by their texts. -/
def Apart : Shape → Shape → Prop
  | fixed text, fixed text' => text ≠ text'
  | numbered front back, numbered front' back' => front = front' → back ≠ back'
  | named front, fixed text | fixed text, named front => ¬front.toList <+: text.toList ++ ['\n']
  | named front, numbered front' _ | numbered front' _, named front | named front, named front' =>
      ¬front.toList <+: front'.toList ∧ ¬front'.toList <+: front.toList
  | fixed _, numbered _ _ | numbered _ _, fixed _ => True

instance : DecidableRel Apart
  | fixed _, fixed _ => inferInstanceAs (Decidable (_ ≠ _))
  | numbered _ _, numbered _ _ => inferInstanceAs (Decidable (_ → _))
  | named _, fixed _ | fixed _, named _ => inferInstanceAs (Decidable (¬_))
  | named _, numbered _ _ | numbered _ _, named _ | named _, named _ =>
      inferInstanceAs (Decidable (_ ∧ _))
  | fixed _, numbered _ _ | numbered _ _, fixed _ => inferInstanceAs (Decidable True)

variable {front front' back back' text : String} {digits digits' rest rest' path : List Char}
  {param param' : RouteParam} {shape shape' : Shape}

theorem prefix_of_named (h : (named front).Reads path param) : front.toList <+: path := by
  cases h
  exact List.prefix_append front.toList _

theorem prefix_of_numbered (h : (numbered front back).Reads path param) :
    front.toList <+: path := by
  cases h with
  | numbered _ _ _ _ hpath => exact (List.prefix_append front.toList _).trans hpath.starts

theorem not_isDigit_of_head (h : rest.head?.any isDigit = false) {c : Char}
    (hc : rest.head? = some c) : ¬isDigit c = true := by
  rw [hc] at h
  exact Bool.not_eq_true _ ▸ h

/-- A path with a number falls apart into what stands before the number, the number and the rest in
one way only. -/
theorem number_unique (hfront : front.toList.any isDigit = false)
    (hfront' : front'.toList.any isDigit = false) (hne : digits ≠ []) (hne' : digits' ≠ [])
    (hdigits : ∀ c ∈ digits, isDigit c = true) (hdigits' : ∀ c ∈ digits', isDigit c = true)
    (hrest : rest.head?.any isDigit = false) (hrest' : rest'.head?.any isDigit = false)
    (h : front.toList ++ (digits ++ rest) = front'.toList ++ (digits' ++ rest')) :
    front = front' ∧ digits = digits' ∧ rest = rest' := by
  have hbefore : ∀ {front digits rest : List Char}, front.any isDigit = false → digits ≠ [] →
      (∀ c ∈ digits, isDigit c = true) →
      (front ++ (digits ++ rest)).takeWhile (fun c => !isDigit c) = front := by
    intro front digits rest hfront hne hdigits
    obtain ⟨d, digits, rfl⟩ := List.exists_cons_of_ne_nil hne
    refine Pattern.takeWhile_run (fun c hc => ?_) fun c hc => ?_
    · rw [Bool.not_eq_true']
      exact Bool.not_eq_true _ ▸ List.any_eq_false.mp hfront c hc
    · obtain rfl : d = c := Option.some.inj hc
      rw [hdigits d List.mem_cons_self]
      exact Bool.false_ne_true
  have hnumber : ∀ {digits rest : List Char}, (∀ c ∈ digits, isDigit c = true) →
      rest.head?.any isDigit = false → (digits ++ rest).takeWhile isDigit = digits :=
    fun hdigits hrest => Pattern.takeWhile_run hdigits fun _ => not_isDigit_of_head hrest
  obtain hsame : front.toList = front'.toList := by
    rw [← hbefore hfront hne hdigits, h, hbefore hfront' hne' hdigits']
  rw [hsame, List.append_cancel_left_eq] at h
  obtain rfl : digits = digits' := by
    rw [← hnumber hdigits hrest, h, hnumber hdigits' hrest']
  exact ⟨String.toList_inj.mp hsame, rfl, List.append_cancel_left h⟩

theorem any_head_of_isLine {back line : List Char}
    (hback : (back ++ ['\n']).head?.any isDigit = false) (h : IsLine back line) :
    line.head?.any isDigit = false := by
  rcases h with rfl | rfl
  · cases line with
    | nil => rfl
    | cons c line => exact hback
  · exact hback

/-- What stands behind the number in a path. -/
theorem exists_rest_of_isLine (hback : (back.toList ++ ['\n']).head?.any isDigit = false)
    (h : IsLine (front.toList ++ (digits ++ back.toList)) path) :
    ∃ rest, path = front.toList ++ (digits ++ rest) ∧ IsLine back.toList rest
      ∧ rest.head?.any isDigit = false := by
  obtain ⟨text, rfl⟩ : ∃ text, path = front.toList ++ text :=
    ((List.prefix_append front.toList _).trans h.starts).imp fun _ => Eq.symm
  have htext := Pattern.isLine_append_iff.mp h
  obtain ⟨rest, rfl⟩ : ∃ rest, text = digits ++ rest :=
    ((List.prefix_append digits _).trans htext.starts).imp fun _ => Eq.symm
  have hrest := Pattern.isLine_append_iff.mp htext
  exact ⟨rest, rfl, hrest, any_head_of_isLine hback hrest⟩

theorem numbered_unique (hplain : (numbered front back).Plain)
    (hplain' : (numbered front' back').Plain) (h : (numbered front back).Reads path param)
    (h' : (numbered front' back').Reads path param') :
    front = front' ∧ back = back' ∧ param = param' := by
  cases h with
  | @numbered _ _ digits _ hne hdigits _ _ hpath =>
      cases h' with
      | @numbered _ _ digits' _ hne' hdigits' _ _ hpath' =>
          obtain ⟨rest, rfl, hline, hrest⟩ := exists_rest_of_isLine hplain.2.1 hpath
          obtain ⟨rest', hsplit, hline', hrest'⟩ := exists_rest_of_isLine hplain'.2.1 hpath'
          obtain ⟨hfront, rfl, rfl⟩ := number_unique hplain.1 hplain'.1 hne hne' hdigits hdigits'
            hrest hrest' hsplit
          have hback := hline.unique hline' hplain.2.2 hplain'.2.2
          exact ⟨hfront, String.toList_inj.mp hback, rfl⟩

/-- A path with a number in it has a digit. -/
theorem fixed_ne_numbered (hplain : (fixed text).Plain) (h : (fixed text).Reads path param)
    (h' : (numbered front back).Reads path param') : False := by
  obtain ⟨hpath⟩ := h
  cases h' with
  | @numbered _ _ digits _ hne hdigits _ _ hpath' =>
      obtain ⟨d, digits, rfl⟩ := List.exists_cons_of_ne_nil hne
      have hd : isDigit d = true := hdigits d List.mem_cons_self
      have hmem : d ∈ path := hpath'.starts.mem (by simp)
      rcases hpath.mem hmem with htext | rfl
      · exact List.any_eq_false.mp hplain.1 d htext hd
      · exact absurd hd (by decide)

theorem named_ne_fixed (hapart : ¬front.toList <+: text.toList ++ ['\n'])
    (h : (named front).Reads path param) (h' : (fixed text).Reads path param') : False := by
  obtain ⟨hpath⟩ := h'
  have hfront := prefix_of_named h
  rcases hpath with rfl | rfl
  · exact hapart (hfront.trans (List.prefix_append text.toList _))
  · exact hapart hfront

/-- Two texts in front of one path go on from one another. -/
theorem not_both_prefixes {front front' path : List Char}
    (hapart : ¬front <+: front' ∧ ¬front' <+: front) (h : front <+: path) (h' : front' <+: path) :
    False := by
  rcases List.prefix_or_prefix_of_prefix h h' with hle | hle
  · exact hapart.1 hle
  · exact hapart.2 hle

/-- No path has two shapes that can be told apart. -/
theorem Apart.not_reads (hapart : shape.Apart shape') (hplain : shape.Plain)
    (hplain' : shape'.Plain) (h : shape.Reads path param) (h' : shape'.Reads path param') :
    False := by
  cases shape with
  | fixed text =>
      cases shape' with
      | fixed text' =>
          obtain ⟨hpath⟩ := h
          obtain ⟨hpath'⟩ := h'
          exact hapart (String.toList_inj.mp (hpath.unique hpath' hplain.2 hplain'.2))
      | numbered front' back' => exact fixed_ne_numbered hplain h h'
      | named front' => exact named_ne_fixed hapart h' h
  | numbered front back =>
      cases shape' with
      | fixed text' => exact fixed_ne_numbered hplain' h' h
      | numbered front' back' =>
          obtain ⟨rfl, rfl, -⟩ := numbered_unique hplain hplain' h h'
          exact hapart rfl rfl
      | named front' =>
          exact not_both_prefixes hapart (prefix_of_named h') (prefix_of_numbered h)
  | named front =>
      cases shape' with
      | fixed text' => exact named_ne_fixed hapart h h'
      | numbered front' back' =>
          exact not_both_prefixes hapart (prefix_of_named h) (prefix_of_numbered h')
      | named front' =>
          exact not_both_prefixes hapart (prefix_of_named h) (prefix_of_named h')

/-- A path of a shape has one parameter. -/
theorem Reads.unique (hplain : shape.Plain) (h : shape.Reads path param)
    (h' : shape.Reads path param') : param = param' := by
  cases shape with
  | fixed text =>
      cases h
      cases h'
      rfl
  | numbered front back => exact (numbered_unique hplain hplain h h').2.2
  | named front =>
      cases h with
      | @named _ name hne hname =>
          generalize hpath : front.toList ++ name = path at h'
          cases h'
          rw [List.append_cancel_left hpath]

/-! ### Paths written for parameters -/

/-- The parameters of a shape's paths. -/
def Takes : Shape → RouteParam → Prop
  | fixed _, .absent => True
  | numbered _ _, .id n => n ≤ 2 ^ 31 - 1
  | named _, .text name => name ≠ [] ∧ '/' ∉ name
  | _, _ => False

/-- The path with a parameter, which is written without zeros in front if it is a number. -/
def write : Shape → RouteParam → List Char
  | fixed text, _ => text.toList
  | numbered front back, .id n => front.toList ++ (Nat.toDigits 10 n ++ back.toList)
  | numbered front back, _ => front.toList ++ back.toList
  | named front, .text name => front.toList ++ name
  | named front, _ => front.toList

theorem reads_write (h : shape.Takes param) : shape.Reads (shape.write param) param := by
  cases shape with
  | fixed text =>
      cases param with
      | absent => exact .fixed (Or.inl rfl)
      | id n => exact h.elim
      | text name => exact h.elim
  | numbered front back =>
      cases param with
      | absent => exact h.elim
      | id n =>
          have hlength : (Nat.toDigits 10 n).length ≤ 4300 :=
            (Nat.toDigits_length 10 n 10 (by decide) (Nat.lt_of_le_of_lt h (by decide))).trans
              (by decide)
          have hvalue := Text.numeralValue_toDigits n
          have hreads : (numbered front back).Reads _ (.id (numeralValue (Nat.toDigits 10 n))) :=
            .numbered Nat.toDigits_ne_nil (fun _ => Text.isDigit_toDigits) hlength
              (hvalue.symm ▸ h) (Or.inl rfl)
          rwa [hvalue] at hreads
      | text name => exact h.elim
  | named front =>
      cases param with
      | absent => exact h.elim
      | id n => exact h.elim
      | text name => exact .named h.1 h.2

end Shape

end Accounts
