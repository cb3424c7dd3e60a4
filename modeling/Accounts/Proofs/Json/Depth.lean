import Accounts.Proofs.Json

/-!
# How deep a document goes

A document that is refused for its depth opens more arrays and objects than there are levels
(`levels_lt_openings`), and one that begins with so many opening brackets is refused for it,
whatever comes behind them (`parse_openings`). So a reader of short documents need not be afraid
of that refusal, and whoever takes documents of any length must.
-/

namespace Accounts.Json

namespace Parser

/-- How many arrays and objects a text could open. -/
def openings (codes : Codes) : Nat := codes.countP fun code => code = 0x5B || code = 0x7B

theorem openings_le {codes rest : Codes} (h : rest <:+ codes) : openings rest ≤ openings codes :=
  h.sublist.countP_le

/-- A reader that may go `depth` levels deeper leaves an end of the text. If it stops for the depth,
more is opened in the text than there are levels. -/
def Within {α : Type} (depth : Nat) (codes : Codes) : Except ParseError (α × Codes) → Prop
  | .ok (_, rest) => rest <:+ codes
  | .error .tooDeep => depth < openings codes
  | .error .malformed => True

section Within

variable {α β : Type} {depth : Nat} {codes rest : Codes} {result : Except ParseError (α × Codes)}

theorem Within.of_suffix (h : Within depth rest result) (hsuffix : rest <:+ codes) :
    Within depth codes result := by
  rcases result with ⟨_ | _⟩ | ⟨value, left⟩
  · trivial
  · exact Nat.lt_of_lt_of_le h (openings_le hsuffix)
  · exact List.IsSuffix.trans h hsuffix

theorem Within.bind {next : α × Codes → Except ParseError (β × Codes)}
    (h : Within depth codes result)
    (hnext : ∀ value rest, rest <:+ codes → Within depth rest (next (value, rest))) :
    Within depth codes (result >>= next) := by
  rcases result with ⟨_ | _⟩ | ⟨value, left⟩
  · trivial
  · exact h
  · exact (hnext value left h).of_suffix h

/-- What is opened takes a level and is an opening. -/
theorem Within.opened {code : Nat} (hopening : code = 0x5B ∨ code = 0x7B)
    (h : Within depth rest result) : Within (depth + 1) (code :: rest) result := by
  rcases result with ⟨_ | _⟩ | ⟨value, left⟩
  · trivial
  · have hcount : openings (code :: rest) = openings rest + 1 :=
      List.countP_cons_of_pos (by simpa using hopening)
    unfold Within
    rw [hcount]
    exact Nat.succ_lt_succ h
  · exact List.IsSuffix.trans h (List.suffix_cons code rest)

end Within

theorem zero_lt_openings {code : Nat} {rest : Codes} (hopening : code = 0x5B ∨ code = 0x7B) :
    0 < openings (code :: rest) :=
  List.countP_pos_iff.mpr ⟨code, List.mem_cons_self, by simpa using hopening⟩

theorem suffix_skipBlanks (codes : Codes) : skipBlanks codes <:+ codes := List.dropWhile_suffix _

/-- What stands behind a separator. -/
theorem suffix_behind {code : Nat} {codes rest : Codes} (h : skipBlanks codes = code :: rest) :
    rest <:+ codes :=
  (List.suffix_cons code rest).trans (h ▸ suffix_skipBlanks codes)

/-! ## Strings and numbers -/

theorem within_consCode {depth code : Nat} {codes : Codes}
    {result : Except ParseError (Codes × Codes)} (h : Within depth codes result) :
    Within depth codes (consCode code result) := by
  rcases result with ⟨_ | _⟩ | ⟨value, left⟩ <;> exact h

theorem within_stringBody (depth skip : Nat) (codes : Codes) :
    Within depth codes (stringBody skip codes) := by
  fun_induction stringBody skip codes with
  | case1 => trivial
  | case2 skip code rest ih => exact ih.of_suffix (List.suffix_cons ..)
  | case3 rest => exact List.suffix_cons ..
  | case4 escape code hpair ih =>
      simp only [hpair]
      exact (within_consCode ih).of_suffix (List.suffix_cons ..)
  | case5 a b c d tail code hunit hpair ih =>
      simp only [hpair, hunit]
      exact (within_consCode ih).of_suffix (List.suffix_cons ..)
  | case6 a b c d tail hunit hpair =>
      simp only [hpair, hunit]
      trivial
  | case7 escape hpair hshort =>
      simp only [hpair]
      trivial
  | case8 letter tail hletter code hescape ih =>
      exact (within_consCode ih).of_suffix (List.suffix_cons ..)
  | case9 | case10 | case11 => trivial
  | case12 code rest hquote hslash hplain ih =>
      exact (within_consCode ih).of_suffix (List.suffix_cons ..)

theorem suffix_wholePart {codes digits rest : Codes} (h : wholePart codes = some (digits, rest)) :
    rest <:+ codes := by
  unfold wholePart at h
  split at h
  · cases h
    exact List.suffix_cons ..
  · dsimp only at h
    split at h
    · cases h
    · cases h
      exact List.dropWhile_suffix _

theorem suffix_fractionPart (codes : Codes) : (fractionPart codes).2 <:+ codes := by
  unfold fractionPart
  split
  · dsimp only
    split
    · exact List.suffix_refl _
    · exact (List.dropWhile_suffix _).trans (List.suffix_cons ..)
  · exact List.suffix_refl _

theorem suffix_exponentPart (codes : Codes) : (exponentPart codes).2 <:+ codes := by
  unfold exponentPart
  split
  · rename_i mark rest
    split
    · have hbody : ∀ {body : Bool × Codes}, body.2 <:+ rest →
          (let digits := body.2.takeWhile isDigit
            if digits.isEmpty then (none, mark :: rest)
            else
              let size : Int := ofDigits digits
              (some (if body.1 then -size else size), body.2.dropWhile isDigit)).2
            <:+ mark :: rest := by
        intro body hbody
        dsimp only
        split
        · exact List.suffix_refl _
        · exact ((List.dropWhile_suffix _).trans hbody).trans (List.suffix_cons ..)
      refine hbody ?_
      split
      · exact List.suffix_cons ..
      · exact List.suffix_cons ..
      · exact List.suffix_refl _
    · exact List.suffix_refl _
  · exact List.suffix_refl _

theorem within_number (depth : Nat) (negative : Bool) (codes : Codes) :
    Within depth codes (number negative codes) := by
  unfold number
  split
  · trivial
  · rename_i whole rest hwhole
    have hfraction := suffix_fractionPart rest
    have hexponent := suffix_exponentPart (fractionPart rest).2
    have hrest := (hexponent.trans hfraction).trans (suffix_wholePart hwhole)
    dsimp only
    split
    · split
      · exact hrest
      · trivial
    · exact hrest

theorem within_scalar (depth : Nat) (codes : Codes) : Within depth codes (scalar codes) := by
  unfold scalar
  split
  · rename_i found hfound
    obtain ⟨⟨word, named⟩, -, hword⟩ := List.exists_of_findSome?_eq_some hfound
    obtain ⟨rest, hrest, rfl⟩ := Option.map_eq_some_iff.mp hword
    unfold dropWord? at hrest
    dsimp only at hrest
    split at hrest
    · cases hrest
      exact List.drop_suffix _ _
    · cases hrest
  · split
    · exact (within_number ..).of_suffix (List.suffix_cons ..)
    · exact within_number ..

/-! ## Values -/

/-- Whatever is read within a value goes on within its text. -/
theorem within_levels (fuel : Nat) : ∀ depth codes,
    Within depth codes (value depth fuel codes)
      ∧ Within depth codes (elements depth fuel codes)
      ∧ ∀ found, Within depth codes (members depth fuel found codes) := by
  -- The depth changes where something is opened, the fuel with every call, so the induction is on
  -- the fuel, and for all three readers at once.
  induction fuel with
  | zero =>
      intro depth codes
      refine ⟨trivial, trivial, fun found => ?_⟩
      unfold members
      trivial
  | succ fuel ih =>
      intro depth codes
      refine ⟨?_, ?_, fun found => ?_⟩
      · unfold value
        split
        · trivial
        · rename_i rest hfuel
          exact ((within_stringBody depth 0 rest).of_suffix (List.suffix_cons ..)).bind
            fun _ rest _ => List.suffix_refl rest
        · rename_i rest hfuel
          cases hfuel
          cases depth with
          | zero => exact zero_lt_openings (.inl rfl)
          | succ depth =>
              refine Within.opened (.inl rfl) (Within.of_suffix ?_ (suffix_skipBlanks rest))
              dsimp only
              split
              · rename_i hclose
                exact hclose ▸ List.suffix_cons ..
              · exact (ih depth _).2.1.bind fun _ rest _ => List.suffix_refl rest
        · rename_i rest hfuel
          cases hfuel
          cases depth with
          | zero => exact zero_lt_openings (.inr rfl)
          | succ depth =>
              refine Within.opened (.inr rfl) (Within.of_suffix ?_ (suffix_skipBlanks rest))
              dsimp only
              split
              · rename_i hclose
                exact hclose ▸ List.suffix_cons ..
              · exact ((ih depth _).2.2 []).bind fun _ rest _ => List.suffix_refl rest
        · exact within_scalar depth _
      · unfold elements
        refine (ih depth codes).1.bind fun item rest hrest => ?_
        dsimp only
        split
        · rename_i body hcomma
          refine Within.of_suffix ?_ (suffix_behind hcomma)
          exact ((ih depth _).2.1.of_suffix (suffix_skipBlanks body)).bind
            fun _ rest _ => List.suffix_refl rest
        · rename_i body hclose
          exact suffix_behind hclose
        · trivial
      · unfold members
        split
        · rename_i rest hfuel
          cases hfuel
          refine ((within_stringBody depth 0 rest).of_suffix (List.suffix_cons ..)).bind
            fun name rest _ => ?_
          dsimp only
          split
          · rename_i body hcolon
            refine Within.of_suffix ?_ (suffix_behind hcolon)
            refine ((ih depth _).1.of_suffix (suffix_skipBlanks body)).bind fun item rest _ => ?_
            dsimp only
            split
            · rename_i body hcomma
              refine Within.of_suffix ?_ (suffix_behind hcomma)
              exact ((ih depth _).2.2 _).of_suffix (suffix_skipBlanks body)
            · rename_i body hclose
              exact suffix_behind hclose
            · trivial
          · trivial
        · trivial

/-- What begins with more opening brackets than there are levels is too deep, whatever comes behind
them. -/
theorem value_openings {depth fuel brackets : Nat} (hdepth : depth < brackets)
    (hfuel : 2 * depth < fuel) (tail : Codes) :
    value depth fuel (List.replicate brackets 0x5B ++ tail) = .error .tooDeep := by
  induction depth generalizing fuel brackets with
  | zero =>
      obtain ⟨fuel, rfl⟩ : ∃ n, fuel = n + 1 := ⟨fuel - 1, by omega⟩
      obtain ⟨brackets, rfl⟩ : ∃ n, brackets = n + 1 := ⟨brackets - 1, by omega⟩
      rw [List.replicate_succ, List.cons_append, value]
  | succ depth ih =>
      obtain ⟨fuel, rfl⟩ : ∃ n, fuel = n + 2 := ⟨fuel - 2, by omega⟩
      obtain ⟨brackets, rfl⟩ : ∃ n, brackets = n + 2 := ⟨brackets - 2, by omega⟩
      have hinner : value depth fuel (List.replicate (brackets + 1) 0x5B ++ tail)
          = .error .tooDeep := ih (by omega) (by omega)
      have helements : elements depth (fuel + 1) (0x5B :: (List.replicate brackets 0x5B ++ tail))
          = .error .tooDeep := by
        rw [elements, ← List.cons_append, ← List.replicate_succ, hinner]
        rfl
      have hskip : skipBlanks (0x5B :: (List.replicate brackets 0x5B ++ tail))
          = 0x5B :: (List.replicate brackets 0x5B ++ tail) := rfl
      rw [List.replicate_succ, List.cons_append, value, List.replicate_succ, List.cons_append]
      simp only [hskip, helements, bind, Except.bind]

end Parser

/-- A document that is refused for its depth opens more arrays and objects than there are levels. -/
theorem levels_lt_openings {depth : Depth} {codes : List Nat}
    (h : parse depth codes = .error .tooDeep) : depth.levels < Parser.openings codes := by
  have hvalue := (Parser.within_levels (2 * codes.length + 2) depth.levels
    (Parser.skipBlanks codes)).1
  unfold parse at h
  cases hread : Parser.value depth.levels (2 * codes.length + 2) (Parser.skipBlanks codes) with
  | ok found =>
      rw [hread] at h
      change (if (Parser.skipBlanks found.2).isEmpty then Except.ok found.1
        else .error ParseError.malformed) = _ at h
      split at h <;> cases h
  | error problem =>
      rw [hread] at h hvalue
      cases h
      exact Nat.lt_of_lt_of_le hvalue (Parser.openings_le (Parser.suffix_skipBlanks codes))

/-- A document that begins with more opening brackets than there are levels is refused for it. -/
theorem parse_openings {depth : Depth} {brackets : Nat} (h : depth.levels < brackets)
    (tail : List Nat) : parse depth (List.replicate brackets 0x5B ++ tail) = .error .tooDeep := by
  have hskip : Parser.skipBlanks (List.replicate brackets 0x5B ++ tail)
      = List.replicate brackets 0x5B ++ tail := by
    obtain ⟨brackets, rfl⟩ : ∃ n, brackets = n + 1 := ⟨brackets - 1, by omega⟩
    rfl
  have hlength : (List.replicate brackets 0x5B ++ tail).length = brackets + tail.length := by
    rw [List.length_append, List.length_replicate]
  unfold parse
  rw [hskip, Parser.value_openings h (by omega)]
  rfl

/-! ## Octets -/

theorem openings_of_parseOctets {depth : Depth} {octets : List UInt8}
    (h : parseOctets depth octets = .error .tooDeep) :
    ∃ codes, codesOfOctets? octets = some codes ∧ depth.levels < Parser.openings codes := by
  unfold parseOctets at h
  split at h
  · rename_i codes hcodes
    exact ⟨codes, hcodes, levels_lt_openings h⟩
  · cases h

/-- Opening brackets are octets of their own in UTF-8. -/
theorem codes?_openings (brackets : Nat) {tail : List UInt8} {codes : List Nat}
    (h : Text.Utf8.codes? tail = some codes) :
    Text.Utf8.codes? (List.replicate brackets 0x5B ++ tail)
      = some (List.replicate brackets 0x5B ++ codes) := by
  induction brackets with
  | zero => exact h
  | succ brackets ih =>
      have hlead : Text.Utf8.itemsFrom true none (0x5B :: (List.replicate brackets 0x5B ++ tail))
          = some 0x5B :: Text.Utf8.itemsFrom true none (List.replicate brackets 0x5B ++ tail) := rfl
      unfold Text.Utf8.codes? at ih
      rw [List.replicate_succ, List.cons_append, Text.Utf8.codes?, hlead, List.mapM_cons, ih]
      rfl

theorem parseOctets_openings {depth : Depth} {brackets : Nat} (h : depth.levels < brackets)
    {tail : List UInt8} {codes : List Nat} (htail : Text.Utf8.codes? tail = some codes) :
    parseOctets depth (List.replicate brackets 0x5B ++ tail) = .error .tooDeep := by
  have hdetect : Encoding.detect (List.replicate brackets 0x5B ++ tail) = .utf8 := by
    have hfour : 4 ≤ depth.levels := Nat.le_trans (by decide) depth.least
    have hlong : 4 ≤ brackets := Nat.le_trans hfour (Nat.le_of_lt h)
    obtain ⟨more, rfl⟩ := Nat.exists_eq_add_of_le' hlong
    rfl
  rw [parseOctets, codesOfOctets?, hdetect, Encoding.codes?, codes?_openings brackets htail]
  exact parse_openings h codes

end Accounts.Json
