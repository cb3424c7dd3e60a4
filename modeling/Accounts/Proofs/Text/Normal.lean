import Accounts.Proofs.Text.Utf8
import Accounts.Text.Normal
import Mathlib.Data.List.Chain
import Mathlib.Data.List.Nodup
import Mathlib.Data.Nat.Bitwise

/-!
# Canonical composition is done once

A composed text is composed already: `composed_composed`.

Decomposition and canonical order make one text of all that are canonically equivalent. What
composition puts together, decomposition takes apart again, up to the order of marks of different
classes; so the decomposed and ordered form of a composed text is the one that was composed, and
composing it a second time gives the same.

What the table of decompositions has to satisfy is checked on the table: no character has two
entries, the parts of an entry have none after two steps, and neither belongs to Hangul, which is
taken apart by arithmetic.
-/

namespace Accounts.Text.Normal

/-! ## The table -/

/-- A set of code points as the bits of a number. -/
def codeSet (codes : List Nat) : Nat := codes.foldr (fun code set => 1 <<< code ||| set) 0

theorem testBit_codeSet (codes : List Nat) (code : Nat) :
    (codeSet codes).testBit code = true ↔ code ∈ codes := by
  induction codes with
  | nil => simp [codeSet]
  | cons first rest ih =>
      rw [codeSet, List.foldr_cons, ← codeSet, Nat.testBit_or, Bool.or_eq_true, ih,
        List.mem_cons, Nat.one_shiftLeft, Nat.testBit_two_pow, decide_eq_true_eq, eq_comm]

/-- No code point is in `seen`, and none occurs twice. -/
def distinctFrom : Nat → List Nat → Bool
  | _, [] => true
  | seen, code :: rest => !seen.testBit code && distinctFrom (1 <<< code ||| seen) rest

theorem nodup_of_distinctFrom {seen : Nat} {codes : List Nat} (h : distinctFrom seen codes = true) :
    codes.Nodup ∧ ∀ code ∈ codes, seen.testBit code = false := by
  induction codes generalizing seen with
  | nil => simp
  | cons first rest ih =>
      simp only [distinctFrom, Bool.and_eq_true, Bool.not_eq_true'] at h
      obtain ⟨hnodup, hrest⟩ := ih h.2
      have hseen : ∀ code ∈ rest, code ≠ first ∧ seen.testBit code = false := by
        intro code hcode
        have := hrest code hcode
        rw [Nat.testBit_or, Nat.one_shiftLeft, Nat.testBit_two_pow, Bool.or_eq_false_iff] at this
        exact ⟨fun e => by simp [e] at this, this.2⟩
      refine ⟨List.nodup_cons.mpr ⟨fun hmem => (hseen first hmem).1 rfl, hnodup⟩, ?_⟩
      intro code hcode
      rcases List.mem_cons.mp hcode with rfl | hcode
      · exact h.1
      · exact (hseen code hcode).2

theorem nodup_decompositions : (decompositions.map (·.code)).Nodup :=
  (nodup_of_distinctFrom (show distinctFrom 0 (decompositions.map (·.code)) = true by
    decide +kernel)).1

/-- Jamos and syllables, which are taken apart and put together by arithmetic. -/
def isHangul (code : Nat) : Bool :=
  0x1100 ≤ code && code < 0x11C3 || hangulBase ≤ code && code < hangulBase + 11172

/-- An entry is about characters beyond ASCII, and Hangul has no part in it. -/
structure Decomposition.Plain (d : Decomposition) : Prop where
  code_ge : 128 ≤ d.code
  code_hangul : isHangul d.code = false
  code_valid : d.code.isValidChar
  part_hangul : ∀ part ∈ d.parts, isHangul part = false
  part_valid : ∀ part ∈ d.parts, part.isValidChar

theorem Decomposition.plain {d : Decomposition} (h : d ∈ decompositions) : d.Plain := by
  have hall : (decompositions.all fun d =>
      128 ≤ d.code && !isHangul d.code && decide d.code.isValidChar &&
        d.parts.all fun part => !isHangul part && decide part.isValidChar) = true := by
    decide +kernel
  have hd := List.all_eq_true.mp hall d h
  simp only [Bool.and_eq_true, Bool.not_eq_true', decide_eq_true_eq, List.all_eq_true] at hd
  obtain ⟨⟨⟨hge, hhangul⟩, hvalid⟩, hparts⟩ := hd
  exact ⟨hge, hhangul, hvalid, fun part hpart => (hparts part hpart).1,
    fun part hpart => (hparts part hpart).2⟩

/-! ## Decomposition -/

theorem find?_decompositions {d : Decomposition} (h : d ∈ decompositions) :
    decompositions.find? (·.code == d.code) = some d := by
  cases hfind : decompositions.find? (·.code == d.code) with
  | none =>
      have := List.find?_eq_none.mp hfind d h
      simp at this
  | some other =>
      have hcode : other.code = d.code := by simpa using List.find?_some hfind
      rw [List.inj_on_of_nodup_map nodup_decompositions (List.mem_of_find?_eq_some hfind) h hcode]

theorem step_of_mem {d : Decomposition} (h : d ∈ decompositions) : step d.code = d.parts := by
  have hplain := d.plain h
  have hhangul := hplain.code_hangul
  have hge := hplain.code_ge
  simp only [isHangul, Bool.or_eq_false_iff] at hhangul
  rw [step, if_neg (by simp [hhangul.2]), if_neg (by omega), find?_decompositions h]

/-- A character that decomposition leaves alone. -/
def Terminal (code : Nat) : Prop := step code = [code]

theorem terminal_of_notMem {code : Nat} (hhangul : isHangul code = false)
    (h : code ∉ decompositions.map (·.code)) : Terminal code := by
  simp only [isHangul, Bool.or_eq_false_iff] at hhangul
  have hfind : decompositions.find? (·.code == code) = none := by
    rw [List.find?_eq_none]
    intro d hd hcode
    exact h (List.mem_map.mpr ⟨d, hd, by simpa using hcode⟩)
  rw [Terminal, step, if_neg (by simp [hhangul.2]), hfind]
  split <;> rfl

theorem terminal_of_jamo {code : Nat} (hlow : 0x1100 ≤ code) (hhigh : code < 0x11C3) :
    Terminal code := by
  have hfind : decompositions.find? (·.code == code) = none := by
    rw [List.find?_eq_none]
    intro d hd hcode
    have hhangul := (d.plain hd).code_hangul
    rw [show d.code = code by simpa using hcode] at hhangul
    simp [isHangul, hlow, hhigh] at hhangul
  have hbase : ¬hangulBase ≤ code := by
    rw [hangulBase]
    omega
  rw [Terminal, step, if_neg (by simp [hbase]), if_neg (by omega), hfind]

theorem decomposeRounds_append (n : Nat) (a b : List Nat) :
    decomposeRounds n (a ++ b) = decomposeRounds n a ++ decomposeRounds n b := by
  induction n generalizing a b with
  | zero => rfl
  | succ n ih => rw [decomposeRounds, List.flatMap_append, ih, decomposeRounds, decomposeRounds]

theorem decomposeRounds_singleton (n code : Nat) :
    decomposeRounds (n + 1) [code] = decomposeRounds n (step code) := by
  rw [decomposeRounds, List.flatMap_singleton]

theorem decomposeRounds_add (m n : Nat) (codes : List Nat) :
    decomposeRounds (m + n) codes = decomposeRounds n (decomposeRounds m codes) := by
  induction m generalizing codes with
  | zero => rw [Nat.zero_add, decomposeRounds]
  | succ m ih => rw [Nat.succ_add, decomposeRounds, ih, decomposeRounds]

theorem decomposeRounds_of_terminal {codes : List Nat} (h : ∀ code ∈ codes, Terminal code)
    (n : Nat) : decomposeRounds n codes = codes := by
  have hstep : codes.flatMap step = codes := by
    rw [List.flatMap_congr h, List.flatMap_singleton']
  induction n with
  | zero => rfl
  | succ n ih => rw [decomposeRounds, hstep, ih]

/-- A character that `n` rounds take apart. -/
def Settled (n code : Nat) : Prop := ∀ part ∈ decomposeRounds n [code], Terminal part

theorem Terminal.settled {code : Nat} (h : Terminal code) (n : Nat) : Settled n code := by
  have hall : ∀ part ∈ [code], Terminal part := by
    intro part hpart
    rwa [List.mem_singleton.mp hpart]
  rw [Settled, decomposeRounds_of_terminal hall]
  exact hall

theorem mem_decomposeRounds {n part : Nat} {codes : List Nat}
    (h : part ∈ decomposeRounds n codes) : ∃ code ∈ codes, part ∈ decomposeRounds n [code] := by
  induction codes with
  | nil =>
      rw [decomposeRounds_of_terminal (by simp)] at h
      cases h
  | cons code rest ih =>
      rw [← List.singleton_append, decomposeRounds_append, List.mem_append] at h
      rcases h with h | h
      · exact ⟨code, List.mem_cons_self, h⟩
      · obtain ⟨other, hother, hpart⟩ := ih h
        exact ⟨other, List.mem_cons_of_mem _ hother, hpart⟩

theorem settled_succ {n code : Nat} (h : ∀ part ∈ step code, Settled n part) :
    Settled (n + 1) code := by
  intro part hpart
  rw [decomposeRounds_singleton] at hpart
  obtain ⟨first, hfirst, hpart⟩ := mem_decomposeRounds hpart
  exact h first hfirst part hpart

theorem Settled.mono {n code : Nat} (h : Settled n code) (k : Nat) : Settled (n + k) code := by
  intro part hpart
  rw [decomposeRounds_add, decomposeRounds_of_terminal h] at hpart
  exact h part hpart

/-- The characters with an entry in the table. -/
def tableCodes : Nat := codeSet (decompositions.map (·.code))

/-- Those of them whose parts have no entry or are in `set`. -/
def above (set : Nat) : Nat :=
  codeSet ((decompositions.filter fun d =>
    d.parts.all fun part => !tableCodes.testBit part || set.testBit part).map (·.code))

theorem settled_of_part {d : Decomposition} (hd : d ∈ decompositions) {set n : Nat}
    (hset : ∀ code, set.testBit code = true → Settled n code) {part : Nat} (hpart : part ∈ d.parts)
    (h : (!tableCodes.testBit part || set.testBit part) = true) : Settled n part := by
  rcases Bool.or_eq_true_iff.mp h with h | h
  · refine (terminal_of_notMem ((d.plain hd).part_hangul part hpart) fun hmem => ?_).settled n
    rw [tableCodes, (testBit_codeSet _ _).mpr hmem] at h
    cases h
  · exact hset part h

theorem settled_above {set n : Nat} (hset : ∀ code, set.testBit code = true → Settled n code)
    (code : Nat) (h : (above set).testBit code = true) : Settled (n + 1) code := by
  obtain ⟨d, hd, rfl⟩ := List.mem_map.mp ((testBit_codeSet _ _).mp h)
  obtain ⟨hd, hparts⟩ := List.mem_filter.mp hd
  refine settled_succ fun part hpart => ?_
  rw [step_of_mem hd] at hpart
  exact settled_of_part hd hset hpart (List.all_eq_true.mp hparts part hpart)

/-- No entry of the table leads to more than three rounds. -/
theorem settled_of_mem {d : Decomposition} (h : d ∈ decompositions) : Settled 3 d.code := by
  have hall : (decompositions.all fun d => d.parts.all fun part =>
      !tableCodes.testBit part || (above (above 0)).testBit part) = true := by
    decide +kernel
  have htwo : ∀ code, (above (above 0)).testBit code = true → Settled 2 code :=
    settled_above (settled_above (n := 0) (by simp))
  refine settled_succ fun part hpart => ?_
  rw [step_of_mem h] at hpart
  exact settled_of_part h htwo hpart
    (List.all_eq_true.mp (List.all_eq_true.mp hall d h) part hpart)

theorem step_syllable {index : Nat} (h : index < 11172) :
    step (hangulBase + index) = [0x1100 + index / 588, 0x1161 + index % 588 / 28]
      ++ if index % 28 = 0 then [] else [0x11A7 + index % 28] := by
  have hhangul : hangulBase ≤ hangulBase + index ∧ hangulBase + index < hangulBase + 11172 := by
    omega
  rw [step, if_pos (by simpa using hhangul), Nat.add_sub_cancel_left]
  dsimp only
  split <;> rfl

theorem step_cases (code : Nat) :
    Terminal code ∨ (∀ part ∈ step code, 0x1100 ≤ part ∧ part < 0x11C3)
      ∨ ∃ d ∈ decompositions, d.code = code := by
  by_cases hhangul : hangulBase ≤ code ∧ code < hangulBase + 11172
  · obtain ⟨index, rfl⟩ := Nat.exists_eq_add_of_le hhangul.1
    refine Or.inr (Or.inl fun part hpart => ?_)
    rw [step_syllable (by omega), List.mem_append] at hpart
    rcases hpart with hpart | hpart
    · simp only [List.mem_cons, List.not_mem_nil, or_false] at hpart
      omega
    · split at hpart
      · cases hpart
      · rw [List.mem_singleton] at hpart
        omega
  · unfold Terminal step
    rw [if_neg (by simpa using hhangul)]
    split
    · exact Or.inl rfl
    · split
      · rename_i d hfind
        exact Or.inr (Or.inr ⟨d, List.mem_of_find?_eq_some hfind, by
          simpa using List.find?_some hfind⟩)
      · exact Or.inl rfl

theorem settled_four (code : Nat) : Settled 4 code := by
  rcases step_cases code with h | h | ⟨d, hd, rfl⟩
  · exact h.settled 4
  · refine settled_succ fun part hpart => ?_
    exact (terminal_of_jamo (h part hpart).1 (h part hpart).2).settled 3
  · exact (settled_of_mem hd).mono 1

theorem terminal_of_mem_decompose {code : Nat} {codes : List Nat} (h : code ∈ decompose codes) :
    Terminal code := by
  obtain ⟨first, -, hcode⟩ := mem_decomposeRounds h
  exact settled_four first code hcode

theorem decompose_append (a b : List Nat) : decompose (a ++ b) = decompose a ++ decompose b :=
  decomposeRounds_append 4 a b

theorem decompose_cons (code : Nat) (rest : List Nat) :
    decompose (code :: rest) = decompose [code] ++ decompose rest :=
  decompose_append [code] rest

theorem decompose_of_terminal {codes : List Nat} (h : ∀ code ∈ codes, Terminal code) :
    decompose codes = codes :=
  decomposeRounds_of_terminal h 4

theorem Terminal.decompose_eq {code : Nat} (h : Terminal code) : decompose [code] = [code] :=
  decompose_of_terminal (List.forall_mem_singleton.mpr h)

theorem decompose_step (code : Nat) : decompose (step code) = decompose [code] := by
  calc decompose (step code)
      = decomposeRounds (4 + 1) [code] := (decomposeRounds_singleton 4 code).symm
    _ = decompose [code] := by
        rw [decomposeRounds_add, decomposeRounds_of_terminal (settled_four code), decompose]

/-- What composition puts together, decomposition takes apart. -/
theorem decompose_of_composePair? {first second code : Nat}
    (h : composePair? first second = some code) :
    decompose [code] = decompose [first] ++ decompose [second] := by
  unfold composePair? at h
  split at h
  · rename_i hjamo
    simp only [Bool.and_eq_true, decide_eq_true_eq] at hjamo
    rw [← Option.some.inj h]
    have hlead : 0x1100 + ((first - 0x1100) * 21 + (second - 0x1161)) * 28 / 588 = first := by
      omega
    have hvowel :
        0x1161 + ((first - 0x1100) * 21 + (second - 0x1161)) * 28 % 588 / 28 = second := by
      omega
    rw [← decompose_step, step_syllable (by omega), if_pos (by omega), hlead, hvowel,
      List.append_nil, decompose_cons]
  · split at h
    · rename_i htail
      simp only [Bool.and_eq_true, decide_eq_true_eq] at htail
      obtain ⟨index, rfl⟩ := Nat.exists_eq_add_of_le htail.1.1.1.1
      rw [Nat.add_sub_cancel_left] at htail
      rw [← Option.some.inj h]
      have hlead : (index + (second - 0x11A7)) / 588 = index / 588 := by
        omega
      have hvowel : (index + (second - 0x11A7)) % 588 / 28 = index % 588 / 28 := by
        omega
      have htail : 0x11A7 + (index + (second - 0x11A7)) % 28 = second := by
        omega
      rw [← decompose_step, ← decompose_step (hangulBase + index), Nat.add_assoc,
        step_syllable (by omega), step_syllable (by omega), if_neg (by omega), if_pos (by omega),
        hlead, hvowel, htail, List.append_nil, decompose_append]
    · obtain ⟨d, hfind, rfl⟩ := Option.map_eq_some_iff.mp h
      have hd := List.find?_some hfind
      simp only [Bool.and_eq_true, beq_iff_eq] at hd
      rw [← decompose_step, step_of_mem (List.mem_of_find?_eq_some hfind), hd.2, decompose_cons]

/-! ## Canonical order -/

/-- Marks stand in the order of their classes; where a character of class zero follows, any may
come before it. -/
def Ordered (codes : List Nat) : Prop :=
  codes.IsChain fun a b => combiningClass b = 0 ∨ combiningClass a ≤ combiningClass b

/-- A run of marks, each with its class, in canonical order. -/
structure IsRun (marks : List (Nat × Nat)) : Prop where
  cls : ∀ mark ∈ marks, combiningClass mark.1 = mark.2 ∧ mark.2 ≠ 0
  sorted : marks.Pairwise fun a b => a.2 ≤ b.2

theorem mem_insertMark {code cls : Nat} {marks : List (Nat × Nat)} {mark : Nat × Nat} :
    mark ∈ insertMark code cls marks ↔ mark = (code, cls) ∨ mark ∈ marks := by
  induction marks with
  | nil => simp [insertMark]
  | cons first rest ih =>
      unfold insertMark
      split
      · rw [List.mem_cons, ih, List.mem_cons, or_left_comm]
      · rw [List.mem_cons, List.mem_cons]

theorem IsRun.insertMark {marks : List (Nat × Nat)} (h : IsRun marks) {code cls : Nat}
    (hcls : combiningClass code = cls) (hne : cls ≠ 0) : IsRun (insertMark code cls marks) := by
  refine ⟨fun mark hmark => ?_, ?_⟩
  · rcases mem_insertMark.mp hmark with rfl | hmark
    · exact ⟨hcls, hne⟩
    · exact h.cls mark hmark
  · have hsorted := h.sorted
    clear h
    induction marks with
    | nil => exact List.pairwise_singleton _ _
    | cons first rest ih =>
        obtain ⟨hfirst, hrest⟩ := List.pairwise_cons.mp hsorted
        unfold Normal.insertMark
        split
        · rename_i hle
          refine List.pairwise_cons.mpr ⟨fun mark hmark => ?_, ih hrest⟩
          rcases mem_insertMark.mp hmark with rfl | hmark
          · exact hle
          · exact hfirst mark hmark
        · rename_i hlt
          refine List.pairwise_cons.mpr ⟨fun mark hmark => ?_, hsorted⟩
          rcases List.mem_cons.mp hmark with rfl | hmark
          · exact Nat.le_of_not_le hlt
          · exact (Nat.le_of_not_le hlt).trans (hfirst mark hmark)

/-- A mark of no smaller class than the others is put last. -/
theorem insertMark_last {marks : List (Nat × Nat)} {code cls : Nat}
    (h : ∀ mark ∈ marks, mark.2 ≤ cls) : insertMark code cls marks = marks ++ [(code, cls)] := by
  induction marks with
  | nil => rfl
  | cons first rest ih =>
      rw [insertMark, if_pos (h first List.mem_cons_self),
        ih fun mark hmark => h mark (List.mem_cons_of_mem _ hmark), List.cons_append]

theorem insertMark_comm {a b : Nat} {marks : List (Nat × Nat)} {acls bcls : Nat}
    (h : acls < bcls) :
    insertMark a acls (insertMark b bcls marks) = insertMark b bcls (insertMark a acls marks) := by
  induction marks with
  | nil => simp [insertMark, h.le, not_le.mpr h]
  | cons first rest ih =>
      obtain ⟨code, cls⟩ := first
      by_cases ha : cls ≤ acls
      · simp [insertMark, ha, ha.trans h.le, ih]
      · by_cases hb : cls ≤ bcls
        · simp [insertMark, ha, hb, h.le]
        · simp [insertMark, ha, hb, h.le, not_le.mpr h]

theorem IsRun.ordered {marks : List (Nat × Nat)} (h : IsRun marks) : Ordered (marks.map (·.1)) := by
  refine List.Pairwise.isChain (List.pairwise_map.mpr ?_)
  refine h.sorted.imp_of_mem fun ha hb hle => Or.inr ?_
  rwa [(h.cls _ ha).1, (h.cls _ hb).1]

/-- A character of class zero may stand anywhere. -/
theorem ordered_append_cons {run rest : List Nat} {code : Nat} (hcode : combiningClass code = 0) :
    Ordered (run ++ code :: rest) ↔ Ordered run ∧ Ordered rest := by
  have hcons : Ordered (code :: rest) ↔ Ordered rest := by
    rw [Ordered, List.isChain_cons]
    refine and_iff_right fun b _ => Or.inr ?_
    rw [hcode]
    exact Nat.zero_le _
  rw [Ordered, List.isChain_append]
  refine ⟨fun h => ⟨h.1, hcons.mp h.2.1⟩, fun h => ⟨h.1, hcons.mpr h.2, fun a _ b hb => ?_⟩⟩
  rw [List.head?_cons, Option.mem_def, Option.some.injEq] at hb
  exact Or.inl (hb ▸ hcode)

theorem ordered_orderFrom {marks : List (Nat × Nat)} (hmarks : IsRun marks) (codes : List Nat) :
    Ordered (orderFrom marks codes) := by
  induction codes generalizing marks with
  | nil => exact hmarks.ordered
  | cons code rest ih =>
      rw [orderFrom]
      split
      · rename_i hcode
        exact (ordered_append_cons hcode).mpr ⟨hmarks.ordered, ih ⟨by simp, .nil⟩⟩
      · rename_i hcode
        exact ih (hmarks.insertMark rfl hcode)

/-- In a run of marks in order, none has a greater class than the last. -/
theorem le_of_ordered {run : List Nat} {last : Nat} (h : Ordered (run ++ [last]))
    (hmarks : ∀ code ∈ run, combiningClass code ≠ 0) (hlast : combiningClass last ≠ 0) :
    ∀ code ∈ run, combiningClass code ≤ combiningClass last := by
  have hne : ∀ code ∈ run ++ [last], combiningClass code ≠ 0 := by
    intro code hcode
    rcases List.mem_append.mp hcode with hcode | hcode
    · exact hmarks code hcode
    · rwa [List.mem_singleton.mp hcode]
  have hchain : ((run ++ [last]).map combiningClass).IsChain (· ≤ ·) :=
    (List.isChain_map _).mpr (h.imp_of_mem_imp fun _ b _ hb hab => hab.resolve_left (hne b hb))
  have hsorted := List.pairwise_map.mp hchain.pairwise
  exact fun code hcode => (List.pairwise_append.mp hsorted).2.2 code hcode last
    (List.mem_singleton_self last)

theorem orderFrom_of_ordered {marks : List (Nat × Nat)} (hmarks : IsRun marks) {codes : List Nat}
    (h : Ordered (marks.map (·.1) ++ codes)) :
    orderFrom marks codes = marks.map (·.1) ++ codes := by
  induction codes generalizing marks with
  | nil => rw [orderFrom, List.append_nil]
  | cons code rest ih =>
      rw [orderFrom]
      split
      · rename_i hcode
        rw [ih ⟨by simp, .nil⟩ ((ordered_append_cons hcode).mp h).2, List.map_nil, List.nil_append]
      · rename_i hcode
        have hrun := le_of_ordered (List.isChain_split.mp h).1 (by
          simp only [List.mem_map]
          rintro other ⟨mark, hmark, rfl⟩
          rw [(hmarks.cls mark hmark).1]
          exact (hmarks.cls mark hmark).2) hcode
        have hlast : ∀ mark ∈ marks, mark.2 ≤ combiningClass code := by
          intro mark hmark
          rw [← (hmarks.cls mark hmark).1]
          exact hrun mark.1 (List.mem_map_of_mem hmark)
        have hmap : (insertMark code (combiningClass code) marks).map (·.1) ++ rest
            = marks.map (·.1) ++ code :: rest := by
          rw [insertMark_last hlast, List.map_append, List.map_singleton, List.append_assoc,
            List.singleton_append]
        rw [ih (hmarks.insertMark rfl hcode) (hmap ▸ h), hmap]

theorem mem_orderFrom {marks : List (Nat × Nat)} {codes : List Nat} {code : Nat} :
    code ∈ orderFrom marks codes ↔ code ∈ marks.map (·.1) ∨ code ∈ codes := by
  induction codes generalizing marks with
  | nil => simp [orderFrom]
  | cons first rest ih =>
      rw [orderFrom]
      split
      · rw [List.mem_append, List.mem_cons, List.mem_cons, ih]
        simp
      · rw [ih, List.mem_cons, ← or_assoc]
        refine or_congr_left ?_
        simp only [List.mem_map, mem_insertMark]
        constructor
        · rintro ⟨mark, rfl | hmark, rfl⟩
          · exact Or.inr rfl
          · exact Or.inl ⟨mark, hmark, rfl⟩
        · rintro (⟨mark, hmark, rfl⟩ | rfl)
          · exact ⟨mark, Or.inr hmark, rfl⟩
          · exact ⟨_, Or.inl rfl, rfl⟩

/-! ## Canonical equivalence -/

/-- Behind any marks, both texts are put in the same order. -/
def Equivalent (a b : List Nat) : Prop := ∀ marks, orderFrom marks a = orderFrom marks b

theorem Equivalent.refl (codes : List Nat) : Equivalent codes codes := fun _ => rfl

theorem Equivalent.trans {a b c : List Nat} (hab : Equivalent a b) (hbc : Equivalent b c) :
    Equivalent a c :=
  fun marks => (hab marks).trans (hbc marks)

theorem Equivalent.append_left {a b : List Nat} (h : Equivalent a b) (codes : List Nat) :
    Equivalent (codes ++ a) (codes ++ b) := by
  induction codes with
  | nil => exact h
  | cons code rest ih =>
      intro marks
      rw [List.cons_append, List.cons_append, orderFrom, orderFrom, ih, ih]

theorem equivalent_swap {a b : Nat} (ha : combiningClass a ≠ 0)
    (hab : combiningClass a < combiningClass b) (rest : List Nat) :
    Equivalent (b :: a :: rest) (a :: b :: rest) := by
  intro marks
  have hb : combiningClass b ≠ 0 := by
    omega
  simp only [orderFrom, if_neg ha, if_neg hb, insertMark_comm hab]

/-- A mark may stand in front of marks of smaller classes. -/
theorem equivalent_move {code : Nat} {run : List Nat}
    (h : ∀ mark ∈ run, combiningClass mark ≠ 0 ∧ combiningClass mark < combiningClass code)
    (rest : List Nat) : Equivalent (code :: (run ++ rest)) (run ++ code :: rest) := by
  induction run with
  | nil => exact .refl _
  | cons first run ih =>
      obtain ⟨hfirst, hrun⟩ := List.forall_mem_cons.mp h
      exact (equivalent_swap hfirst.1 hfirst.2 _).trans ((ih hrun).append_left [first])

/-! ## Composition -/

theorem composeFrom_nil (starter : Nat) (between : List Nat) :
    composeFrom starter between [] = starter :: between.reverse := rfl

/-- What stands between keeps a character from the last starter. -/
def isBlocked (between : List Nat) (code : Nat) : Bool :=
  match between with
  | [] => false
  | last :: _ => combiningClass last = 0 || combiningClass code ≤ combiningClass last

theorem composeFrom_cons (starter code : Nat) (between rest : List Nat) :
    composeFrom starter between (code :: rest) =
      match if isBlocked between code then none else composePair? starter code with
      | some composed => composeFrom composed between rest
      | none =>
        if combiningClass code = 0 then starter :: between.reverse ++ composeFrom code [] rest
        else composeFrom starter (code :: between) rest := rfl

theorem ordered_remove {run rest : List Nat} {code : Nat} (h : Ordered (run ++ code :: rest))
    (hrun : ∀ mark ∈ run, combiningClass mark < combiningClass code) : Ordered (run ++ rest) := by
  obtain ⟨hleft, hright, -⟩ := List.isChain_append.mp h
  obtain ⟨hnext, hrest⟩ := List.isChain_cons.mp hright
  refine List.isChain_append.mpr ⟨hleft, hrest, fun a ha b hb => ?_⟩
  have hlt := hrun a (List.mem_of_getLast? ha)
  exact (hnext b hb).imp_right fun hle => hlt.le.trans hle

/-- Only marks of smaller classes do not. -/
theorem lt_of_not_blocked {between rest : List Nat} {code : Nat}
    (hmarks : ∀ mark ∈ between, combiningClass mark ≠ 0)
    (hordered : Ordered (between.reverse ++ rest))
    (hfree : isBlocked between code = false) :
    ∀ mark ∈ between, combiningClass mark < combiningClass code := by
  cases between with
  | nil => simp
  | cons last older =>
      simp only [isBlocked, Bool.or_eq_false_iff, decide_eq_false_iff_not, Nat.not_le] at hfree
      rw [List.reverse_cons, List.append_assoc, List.singleton_append] at hordered
      have hle := le_of_ordered (List.isChain_split.mp hordered).1
        (fun mark hmark => hmarks mark (List.mem_cons_of_mem _ (List.mem_reverse.mp hmark)))
        hfree.1
      refine List.forall_mem_cons.mpr ⟨hfree.2, fun mark hmark => ?_⟩
      exact (hle mark (List.mem_reverse.mpr hmark)).trans_lt hfree.2

theorem equivalent_composeFrom {starter : Nat} {between rest : List Nat}
    (hterminal : ∀ code ∈ between.reverse ++ rest, Terminal code)
    (hmarks : ∀ mark ∈ between, combiningClass mark ≠ 0)
    (hordered : Ordered (between.reverse ++ rest)) :
    Equivalent (decompose (composeFrom starter between rest))
      (decompose [starter] ++ (between.reverse ++ rest)) := by
  induction rest generalizing starter between with
  | nil =>
      rw [List.append_nil] at hterminal ⊢
      rw [composeFrom_nil, decompose_cons, decompose_of_terminal hterminal]
      exact .refl _
  | cons code rest ih =>
      have hcode : Terminal code := hterminal code (by simp)
      have hbetween : ∀ mark ∈ between.reverse, Terminal mark :=
        fun mark hmark => hterminal mark (List.mem_append_left _ hmark)
      have hrest : ∀ other ∈ rest, Terminal other :=
        fun other hother => hterminal other (by simp [hother])
      rw [composeFrom_cons]
      split
      · rename_i composed hpair
        split at hpair
        · cases hpair
        · rename_i hfree
          have hlt := lt_of_not_blocked hmarks hordered (Bool.eq_false_iff.mpr hfree)
          have hrun : ∀ mark ∈ between.reverse,
              combiningClass mark ≠ 0 ∧ combiningClass mark < combiningClass code :=
            fun mark hmark => ⟨hmarks mark (List.mem_reverse.mp hmark),
              hlt mark (List.mem_reverse.mp hmark)⟩
          have hnext := @ih composed between
            (fun other hother => (List.mem_append.mp hother).elim (hbetween other) (hrest other))
            hmarks (ordered_remove hordered fun mark hmark => (hrun mark hmark).2)
          rw [decompose_of_composePair? hpair, hcode.decompose_eq, List.append_assoc,
            List.singleton_append] at hnext
          exact hnext.trans ((equivalent_move hrun rest).append_left _)
      · split
        · rename_i hzero
          have hnext := @ih code [] hrest (by simp)
            ((ordered_append_cons hzero).mp hordered).2
          rw [decompose_append, decompose_cons, decompose_of_terminal hbetween, List.append_assoc]
          rw [hcode.decompose_eq] at hnext
          exact (hnext.append_left _).append_left _
        · rename_i hmark
          have hnext := @ih starter (code :: between) (by
            simpa using hterminal) (List.forall_mem_cons.mpr ⟨hmark, hmarks⟩) (by
            simpa using hordered)
          simpa using hnext

theorem equivalent_compose {codes : List Nat} (hterminal : ∀ code ∈ codes, Terminal code)
    (hordered : Ordered codes) : Equivalent (decompose (compose codes)) codes := by
  induction codes with
  | nil => exact .refl _
  | cons code rest ih =>
      obtain ⟨hcode, hrest⟩ := List.forall_mem_cons.mp hterminal
      have htail : Ordered rest := (List.isChain_cons.mp hordered).2
      rw [compose]
      split
      · have hnext := @equivalent_composeFrom code [] rest hrest (by simp) htail
        rwa [hcode.decompose_eq] at hnext
      · rw [decompose_cons, hcode.decompose_eq]
        exact (ih hrest htail).append_left [code]

/-- What composition makes of a text is decomposed and ordered to the text it was made of. -/
theorem orderFrom_decompose_compose {codes : List Nat} (hterminal : ∀ code ∈ codes, Terminal code)
    (hordered : Ordered codes) : orderFrom [] (decompose (compose codes)) = codes := by
  rw [equivalent_compose hterminal hordered, orderFrom_of_ordered ⟨by simp, .nil⟩ hordered]
  rfl

/-! ## Code points -/

theorem isValidChar_of_composePair? {first second code : Nat}
    (h : composePair? first second = some code) : code.isValidChar := by
  unfold composePair? at h
  split at h
  · rename_i hjamo
    simp only [Bool.and_eq_true, decide_eq_true_eq] at hjamo
    rw [← Option.some.inj h, Nat.isValidChar, hangulBase]
    omega
  · split at h
    · rename_i htail
      simp only [Bool.and_eq_true, decide_eq_true_eq] at htail
      obtain ⟨index, rfl⟩ := Nat.exists_eq_add_of_le htail.1.1.1.1
      rw [← Option.some.inj h, Nat.isValidChar, hangulBase]
      omega
    · obtain ⟨d, hfind, rfl⟩ := Option.map_eq_some_iff.mp h
      exact (d.plain (List.mem_of_find?_eq_some hfind)).code_valid

theorem isValidChar_of_mem_composeFrom {starter : Nat} {between rest : List Nat}
    (hstarter : starter.isValidChar) (hbetween : ∀ code ∈ between, code.isValidChar)
    (hrest : ∀ code ∈ rest, code.isValidChar) :
    ∀ code ∈ composeFrom starter between rest, code.isValidChar := by
  induction rest generalizing starter between with
  | nil =>
      rw [composeFrom_nil]
      exact List.forall_mem_cons.mpr ⟨hstarter, fun code hcode =>
        hbetween code (List.mem_reverse.mp hcode)⟩
  | cons first rest ih =>
      obtain ⟨hfirst, hrest⟩ := List.forall_mem_cons.mp hrest
      rw [composeFrom_cons]
      split
      · rename_i composed hpair
        split at hpair
        · cases hpair
        · exact ih (isValidChar_of_composePair? hpair) hbetween hrest
      · split
        · intro code hcode
          rcases List.mem_append.mp hcode with hcode | hcode
          · rcases List.mem_cons.mp hcode with rfl | hcode
            · exact hstarter
            · exact hbetween code (List.mem_reverse.mp hcode)
          · exact ih hfirst (by simp) hrest code hcode
        · exact ih hstarter (List.forall_mem_cons.mpr ⟨hfirst, hbetween⟩) hrest

theorem isValidChar_of_mem_compose {codes : List Nat} (h : ∀ code ∈ codes, code.isValidChar) :
    ∀ code ∈ compose codes, code.isValidChar := by
  induction codes with
  | nil => exact h
  | cons first rest ih =>
      obtain ⟨hfirst, hrest⟩ := List.forall_mem_cons.mp h
      rw [compose]
      split
      · exact isValidChar_of_mem_composeFrom hfirst (by simp) hrest
      · exact List.forall_mem_cons.mpr ⟨hfirst, ih hrest⟩

theorem isValidChar_of_mem_step {code part : Nat} (hcode : code.isValidChar)
    (h : part ∈ step code) : part.isValidChar := by
  rcases step_cases code with hterminal | hjamo | ⟨d, hd, rfl⟩
  · rw [hterminal, List.mem_singleton] at h
    exact h ▸ hcode
  · obtain ⟨hlow, hhigh⟩ := hjamo part h
    exact Or.inl (by omega)
  · rw [step_of_mem hd] at h
    exact (d.plain hd).part_valid part h

theorem isValidChar_of_mem_decomposeRounds {n : Nat} {codes : List Nat}
    (h : ∀ code ∈ codes, code.isValidChar) :
    ∀ code ∈ decomposeRounds n codes, code.isValidChar := by
  induction n generalizing codes with
  | zero => exact h
  | succ n ih =>
      refine ih fun part hpart => ?_
      obtain ⟨code, hcode, hpart⟩ := List.mem_flatMap.mp hpart
      exact isValidChar_of_mem_step (h code hcode) hpart

/-- A text is composed once and for all. -/
theorem composed_composed (text : List Char) : composed (composed text) = composed text := by
  by_cases hascii : text.all (·.toNat < 128) = true
  · have hcomposed : composed text = text := by
      rw [composed, if_pos hascii]
    rw [hcomposed, hcomposed]
  · have hcomposed : composed text
        = (compose (orderFrom [] (decompose (text.map Char.toNat)))).map Char.ofNat := by
      rw [composed, if_neg hascii]
    have hmem : ∀ code ∈ orderFrom [] (decompose (text.map Char.toNat)),
        code ∈ decompose (text.map Char.toNat) := by
      intro code hcode
      simpa using mem_orderFrom.mp hcode
    have hvalid : ∀ code ∈ compose (orderFrom [] (decompose (text.map Char.toNat))),
        code.isValidChar := by
      refine isValidChar_of_mem_compose fun code hcode =>
        isValidChar_of_mem_decomposeRounds (n := 4) ?_ code (hmem code hcode)
      simp only [List.mem_map]
      rintro code ⟨c, -, rfl⟩
      exact c.valid
    rw [hcomposed]
    by_cases hagain : ((compose (orderFrom [] (decompose (text.map Char.toNat)))).map
        Char.ofNat).all (·.toNat < 128) = true
    · rw [composed, if_pos hagain]
    · have hback := Text.IsText.codesOf_map hvalid
      rw [codesOf] at hback
      rw [composed, if_neg hagain, hback, orderFrom_decompose_compose
        (fun code hcode => terminal_of_mem_decompose (hmem code hcode))
        (ordered_orderFrom ⟨by simp, .nil⟩ _)]

end Accounts.Text.Normal
