import Accounts.Json.Parser
import Accounts.Json.Printer
import Accounts.Proofs.Table
import Accounts.Proofs.Text.Utf8

/-!
# Reading JSON back

What the printer writes for an object of texts, the reader reads as this object (`parse_print`).
Both sides take a string apart code by code: the escape of a code is read as the code, whatever
follows it (`stringBody_escapeCode`). Behind an escape that is no high surrogate the reader does not
look for a second one, and this is the only place where it looks ahead.

Printed text is ASCII, so that its octets are its characters in every encoding that comes into
question, and the reader takes them for UTF-8 (`codesOfOctets?_encode`).
-/

namespace Accounts.Json

open Text (codesOf codesOf_cons codesOf_append toNat_ofNat)

theorem ofCodes_codesOf (value : String) :
    JsonString.ofCodes (codesOf value.toList) = .text value := by
  rw [JsonString.ofCodes, dif_pos (Text.isText_codesOf value.toList), Text.map_codesOf,
    String.ofList_toList]

/-! ## Strings -/

namespace Parser

open Printer Text.Quoted

theorem hex?_hexDigit {n : Nat} (h : n < 16) : hex? (hexDigit n).toNat = some n := by
  have hall : ∀ n : Fin 16, hex? (hexDigit n).toNat = some n.val := by decide
  exact hall ⟨n, h⟩

/-- The four digits of a unit are read as the unit. -/
theorem hex4?_hex {unit : Nat} (h : unit < 0x10000) :
    ∃ a b c d, codesOf (hex 4 unit) = [a, b, c, d] ∧ hex4? a b c d = some unit := by
  refine ⟨_, _, _, _, rfl, ?_⟩
  simp only [hex4?, hex?_hexDigit (Nat.mod_lt _ (by decide : 0 < 16)),
    Option.bind_eq_bind, Option.bind_some, Option.some.injEq]
  omega

/-- Only a high surrogate can be the first of a pair. -/
theorem surrogatePair?_eq_none {a b c d unit : Nat} (hunit : hex4? a b c d = some unit)
    (h : unit < 0xD800 ∨ 0xDC00 ≤ unit) (tail : Codes) :
    surrogatePair? (a :: b :: c :: d :: tail) = none := by
  have hjoin : ∀ low, joinSurrogates? unit low = none := fun low => by
    unfold joinSurrogates?
    rw [if_neg]
    simp only [Bool.and_eq_true, decide_eq_true_eq]
    omega
  unfold surrogatePair?
  split
  · rename_i heq
    simp only [List.cons.injEq] at heq
    obtain ⟨rfl, rfl, rfl, rfl, -⟩ := heq
    simp only [hunit, hjoin, Option.bind_eq_bind, Option.bind_some,
      Option.bind_fun_none]
  · rfl

/-- A unit that is no surrogate is read from its escape. -/
theorem stringBody_unitEscape {unit : Nat} (hunit : unit < 0x10000)
    (h : unit < 0xD800 ∨ 0xE000 ≤ unit) (tail : Codes) :
    stringBody 0 (codesOf (unitEscape unit) ++ tail) = consCode unit (stringBody 0 tail) := by
  obtain ⟨a, b, c, d, hcodes, hread⟩ := hex4?_hex hunit
  have hnone := surrogatePair?_eq_none hread (by omega) tail
  unfold unitEscape
  rw [codesOf_cons, codesOf_cons, hcodes]
  change stringBody 0 (0x5C :: 0x75 :: a :: b :: c :: d :: tail) = _
  rw [stringBody.eq_def]
  simp only [hnone, hread]
  rfl

/-- Two units that join to a code are read as the code. -/
theorem stringBody_units {high low code : Nat} (hhigh : high < 0x10000) (hlow : low < 0x10000)
    (hjoin : joinSurrogates? high low = some code) (tail : Codes) :
    stringBody 0 (codesOf (unitEscape high ++ unitEscape low) ++ tail)
      = consCode code (stringBody 0 tail) := by
  obtain ⟨a, b, c, d, hfirst, hread⟩ := hex4?_hex hhigh
  obtain ⟨e, f, g, i, hsecond, hread'⟩ := hex4?_hex hlow
  have hpair : surrogatePair? (a :: b :: c :: d :: 0x5C :: 0x75 :: e :: f :: g :: i :: tail)
      = some code := by
    rw [surrogatePair?, hread, hread']
    exact hjoin
  unfold unitEscape
  rw [codesOf_append, codesOf_cons, codesOf_cons, codesOf_cons, codesOf_cons, hfirst, hsecond]
  change stringBody 0
    (0x5C :: 0x75 :: a :: b :: c :: d :: 0x5C :: 0x75 :: e :: f :: g :: i :: tail) = _
  rw [stringBody.eq_def]
  simp only [hpair]
  rfl

/-- The surrogates of a code join to it. -/
theorem joinSurrogates?_of_code {code : Nat} (hlow : 0x10000 ≤ code) (hhigh : code < 0x110000) :
    joinSurrogates? (0xD800 + (code - 0x10000) / 0x400) (0xDC00 + (code - 0x10000) % 0x400)
      = some code := by
  unfold joinSurrogates?
  rw [if_pos (by simp only [Bool.and_eq_true, decide_eq_true_eq]; omega), Option.some.injEq]
  omega

/-- A character that stands for itself is read as itself. -/
theorem stringBody_plain {code : Nat} (hquote : code ≠ 0x22) (hslash : code ≠ 0x5C)
    (h : 0x20 ≤ code) (tail : Codes) :
    stringBody 0 (code :: tail) = consCode code (stringBody 0 tail) := by
  rw [stringBody]
  · rw [if_neg (by omega)]
  · exact hquote
  · exact hslash

/-- What is written for a code is read as the code. -/
theorem stringBody_escapeCode {code : Nat} (h : code.isValidChar) (tail : Codes) :
    stringBody 0 (codesOf (escapeCode code) ++ tail) = consCode code (stringBody 0 tail) := by
  unfold escapeCode
  by_cases hquote : code = 0x22
  · subst hquote; rfl
  by_cases hslash : code = 0x5C
  · subst hslash; rfl
  rw [if_neg hquote, if_neg hslash]
  by_cases hn : code = 0x0A
  · subst hn; rfl
  by_cases hr : code = 0x0D
  · subst hr; rfl
  by_cases ht : code = 0x09
  · subst ht; rfl
  by_cases hb : code = 0x08
  · subst hb; rfl
  by_cases hf : code = 0x0C
  · subst hf; rfl
  rw [if_neg hn, if_neg hr, if_neg ht, if_neg hb, if_neg hf]
  have hvalid : code < 0xD800 ∨ 0xDFFF < code ∧ code < 0x110000 := h
  split
  · rename_i hplain
    rw [codesOf_cons, toNat_ofNat h]
    exact stringBody_plain hquote hslash hplain.1 tail
  · split
    · rename_i hunit
      exact stringBody_unitEscape hunit (by omega) tail
    · exact stringBody_units (by omega) (by omega)
        (joinSurrogates?_of_code (by omega) (by omega)) tail

theorem stringBody_flatMap (text : List Char) (tail : Codes) :
    stringBody 0 (codesOf ((codesOf text).flatMap escapeCode) ++ 0x22 :: tail)
      = .ok (codesOf text, tail) := by
  induction text with
  | nil => rfl
  | cons c rest ih =>
      rw [codesOf_cons, List.flatMap_cons, codesOf_append, List.append_assoc,
        stringBody_escapeCode (show c.toNat.isValidChar from c.valid), ih]
      rfl

/-- A printed string is read from behind its opening quote on. -/
theorem stringBody_string (value : String) (tail : Codes) :
    ∃ body, codesOf (Printer.string (.text value)) ++ tail = 0x22 :: body
      ∧ stringBody 0 body = .ok (codesOf value.toList, tail) := by
  refine ⟨codesOf ((codesOf value.toList).flatMap escapeCode) ++ 0x22 :: tail, ?_,
    stringBody_flatMap value.toList tail⟩
  unfold Printer.string
  rw [List.cons_append, codesOf_cons, codesOf_append, List.cons_append, List.append_assoc]
  rfl

/-! ## Objects of texts -/

/-- Members that are texts. -/
def texts (fields : List (String × String)) : List (JsonString × Json) :=
  fields.map fun (name, value) => (.text name, .text value)

theorem value_text (depth fuel : Nat) (value : String) (tail : Codes) :
    Parser.value depth (fuel + 1) (codesOf (Printer.string (.text value)) ++ tail)
      = .ok (.text value, tail) := by
  obtain ⟨body, hbody, hread⟩ := stringBody_string value tail
  rw [hbody, Parser.value]
  simp only [hread, bind, Except.bind, ofCodes_codesOf]
  rfl

/-- What is written for a member that is a text. -/
def member (field : String × String) : List Char :=
  Printer.string (.text field.1) ++ ':' :: Printer.string (.text field.2)

/-- A member is put behind those before it, and the reader goes on with what follows. -/
theorem members_member {depth fuel : Nat} {found : List (JsonString × Json)}
    {field : String × String} (hfresh : Table.get? found (.text field.1) = none) (tail : Codes) :
    Parser.members depth (fuel + 2) found (codesOf (member field) ++ tail)
      = match skipBlanks tail with
        | 0x2C :: rest =>
          Parser.members depth (fuel + 1) (found ++ texts [field]) (skipBlanks rest)
        | 0x7D :: rest => .ok (found ++ texts [field], rest)
        | _ => .error .malformed := by
  unfold member
  rw [codesOf_append, List.append_assoc]
  obtain ⟨body, hbody, hread⟩ := stringBody_string field.1
    (codesOf (':' :: Printer.string (.text field.2)) ++ tail)
  have hcolon : skipBlanks (codesOf (':' :: Printer.string (.text field.2)) ++ tail)
      = 0x3A :: (codesOf (Printer.string (.text field.2)) ++ tail) := rfl
  have hquote : skipBlanks (codesOf (Printer.string (.text field.2)) ++ tail)
      = codesOf (Printer.string (.text field.2)) ++ tail := rfl
  rw [hbody, Parser.members]
  simp only [hread, bind, Except.bind, hcolon, hquote, value_text, ofCodes_codesOf,
    Table.put_of_get?_none hfresh]
  rfl

theorem members_cons (field next : String × String) (more : List (String × String)) :
    Printer.members (texts (field :: next :: more))
      = member field ++ ',' :: Printer.members (texts (next :: more)) := rfl

theorem exists_members (field : String × String) (fields : List (String × String)) :
    ∃ body, Printer.members (texts (field :: fields)) = '"' :: body := by
  cases fields with
  | nil => exact ⟨_, rfl⟩
  | cons next more => exact ⟨_, members_cons field next more⟩

/-- The members of an object are read up to its end. -/
theorem members_texts {depth fuel : Nat} {found : List (JsonString × Json)}
    {field : String × String} {fields : List (String × String)}
    (hfuel : (field :: fields).length < fuel)
    (hdistinct : ((field :: fields).map (·.1)).Nodup)
    (hfresh : ∀ other ∈ field :: fields, Table.get? found (.text other.1) = none) (tail : Codes) :
    Parser.members depth fuel found
        (codesOf (Printer.members (texts (field :: fields))) ++ 0x7D :: tail)
      = .ok (found ++ texts (field :: fields), tail) := by
  induction fields generalizing fuel found field with
  | nil =>
      rw [List.length_singleton] at hfuel
      obtain ⟨fuel, rfl⟩ : ∃ n, fuel = n + 2 := ⟨fuel - 2, by omega⟩
      exact members_member (hfresh field List.mem_cons_self) (0x7D :: tail)
  | cons next more ih =>
      rw [List.length_cons] at hfuel
      obtain ⟨fuel, rfl⟩ : ∃ n, fuel = n + 2 := ⟨fuel - 2, by omega⟩
      have hfield := hfresh field List.mem_cons_self
      rw [List.map_cons] at hdistinct
      obtain ⟨hnot, hdistinct⟩ := List.nodup_cons.mp hdistinct
      rw [members_cons, codesOf_append, List.append_assoc]
      obtain ⟨body, hbody⟩ := exists_members next more
      have hskip : skipBlanks (codesOf (Printer.members (texts (next :: more))) ++ 0x7D :: tail)
          = codesOf (Printer.members (texts (next :: more))) ++ 0x7D :: tail := by
        rw [hbody]
        rfl
      refine (members_member hfield _).trans ?_
      change Parser.members depth (fuel + 1) (found ++ texts [field])
        (skipBlanks (codesOf (Printer.members (texts (next :: more))) ++ 0x7D :: tail)) = _
      rw [hskip]
      refine (ih (by omega) hdistinct fun other hother => ?_).trans ?_
      · rw [texts, List.map_singleton, ← Table.put_of_get?_none hfield, Table.get?_put_of_ne]
        · exact hfresh other (List.mem_cons_of_mem _ hother)
        · rintro heq
          exact hnot (List.mem_map.mpr ⟨other, hother, (JsonString.text.inj heq).symm⟩)
      · rw [List.append_assoc]
        rfl

theorem length_le_members (fields : List (String × String)) :
    fields.length ≤ (codesOf (Printer.members (texts fields))).length := by
  induction fields with
  | nil => exact Nat.zero_le _
  | cons field rest ih =>
      cases rest with
      | nil => exact Nat.succ_le_succ (Nat.zero_le _)
      | cons next more =>
          rw [members_cons, codesOf_append, codesOf_cons, List.length_append]
          simp only [List.length_cons] at ih ⊢
          omega

theorem value_object {depth fuel : Nat} {field : String × String}
    {fields : List (String × String)} (hfuel : (field :: fields).length < fuel)
    (hdistinct : ((field :: fields).map (·.1)).Nodup) :
    Parser.value (depth + 1) (fuel + 1) (codesOf (Json.obj (texts (field :: fields))).print)
      = .ok (.obj (texts (field :: fields)), []) := by
  have hprint : codesOf (Json.obj (texts (field :: fields))).print
      = 0x7B :: (codesOf (Printer.members (texts (field :: fields))) ++ [0x7D]) := by
    rw [print, Printer.value, codesOf_append, codesOf_cons, List.cons_append]
    rfl
  have hread : Parser.members depth fuel []
      (codesOf (Printer.members (texts (field :: fields))) ++ [0x7D])
        = .ok (texts (field :: fields), []) := members_texts hfuel hdistinct (fun _ _ => rfl) []
  obtain ⟨body, hbody⟩ := exists_members field fields
  have hcodes : codesOf ('"' :: body) ++ [0x7D] = 0x22 :: (codesOf body ++ [0x7D]) := rfl
  have hskip : skipBlanks (0x22 :: (codesOf body ++ [0x7D])) = 0x22 :: (codesOf body ++ [0x7D]) :=
    rfl
  rw [hbody, hcodes] at hread
  rw [hprint, hbody, hcodes, Parser.value]
  simp only [hskip, hread, bind, Except.bind]

end Parser

/-- What is written for an object of texts is read as this object. -/
theorem parse_print (depth : Depth) {fields : List (String × String)}
    (hdistinct : (fields.map (·.1)).Nodup) :
    parse depth (codesOf (Json.obj (Parser.texts fields)).print)
      = .ok (.obj (Parser.texts fields)) := by
  have hone : 1 ≤ depth.levels := Nat.le_trans (by decide) depth.least
  obtain ⟨levels, hlevels⟩ := Nat.exists_eq_add_of_le' hone
  cases fields with
  | nil =>
      unfold parse
      rw [hlevels]
      rfl
  | cons field rest =>
      have hlength : (field :: rest).length
          < 2 * (codesOf (Json.obj (Parser.texts (field :: rest))).print).length + 1 := by
        have hmembers := Parser.length_le_members (field :: rest)
        rw [print, Printer.value, codesOf_append, codesOf_cons, List.length_append]
        simp only [List.length_cons] at hmembers ⊢
        omega
      have hread := @Parser.value_object levels _ field rest hlength hdistinct
      have hskip : Parser.skipBlanks (codesOf (Json.obj (Parser.texts (field :: rest))).print)
          = codesOf (Json.obj (Parser.texts (field :: rest))).print := rfl
      unfold parse
      rw [hskip, hlevels, hread]
      rfl

/-! ## Octets -/

/-- All characters are ASCII. -/
def IsAscii (text : List Char) : Prop := ∀ c ∈ text, c.toNat < 0x80

theorem isAscii_append {text more : List Char} :
    IsAscii (text ++ more) ↔ IsAscii text ∧ IsAscii more := List.forall_mem_append

theorem isAscii_cons {c : Char} {text : List Char} :
    IsAscii (c :: text) ↔ c.toNat < 0x80 ∧ IsAscii text := List.forall_mem_cons

theorem isAscii_nil : IsAscii [] := fun _ h => absurd h List.not_mem_nil

section Printed

open Text.Quoted Printer

theorem isAscii_hex (width n : Nat) : IsAscii (hex width n) := by
  have hdigit : ∀ n : Fin 16, (hexDigit n).toNat < 0x80 := by decide
  induction width generalizing n with
  | zero => exact isAscii_nil
  | succ width ih =>
      exact isAscii_append.mpr ⟨ih _,
        isAscii_cons.mpr ⟨hdigit ⟨n % 16, Nat.mod_lt _ (by decide)⟩, isAscii_nil⟩⟩

theorem isAscii_unitEscape (unit : Nat) : IsAscii (unitEscape unit) :=
  isAscii_cons.mpr ⟨by decide, isAscii_cons.mpr ⟨by decide, isAscii_hex 4 unit⟩⟩

theorem isAscii_escapeCode (code : Nat) : IsAscii (escapeCode code) := by
  have hletter : ∀ c : Char, c.toNat < 0x80 → IsAscii ['\\', c] := fun c hc =>
    isAscii_cons.mpr ⟨by decide, isAscii_cons.mpr ⟨hc, isAscii_nil⟩⟩
  unfold escapeCode
  repeat' split
  all_goals try exact hletter _ (by decide)
  · rename_i hplain
    have hvalid : code.isValidChar := Or.inl (by omega)
    refine isAscii_cons.mpr ⟨?_, isAscii_nil⟩
    rw [toNat_ofNat hvalid]
    exact hplain.2
  · exact isAscii_unitEscape code
  · exact isAscii_append.mpr ⟨isAscii_unitEscape _, isAscii_unitEscape _⟩

theorem isAscii_string (value : JsonString) : IsAscii (Printer.string value) := by
  have hquote : '"'.toNat < 0x80 := by decide
  refine isAscii_append.mpr ⟨isAscii_cons.mpr ⟨hquote, fun c hc => ?_⟩,
    isAscii_cons.mpr ⟨hquote, isAscii_nil⟩⟩
  obtain ⟨code, -, hmem⟩ := List.mem_flatMap.mp hc
  exact isAscii_escapeCode code c hmem

theorem isAscii_members (fields : List (String × String)) :
    IsAscii (Printer.members (Parser.texts fields)) := by
  have hmember : ∀ field, IsAscii (Parser.member field) := fun field =>
    isAscii_append.mpr ⟨isAscii_string _, isAscii_cons.mpr ⟨by decide, isAscii_string _⟩⟩
  induction fields with
  | nil => exact isAscii_nil
  | cons field rest ih =>
      cases rest with
      | nil => exact hmember field
      | cons next more =>
          rw [Parser.members_cons]
          exact isAscii_append.mpr ⟨hmember field, isAscii_cons.mpr ⟨by decide, ih⟩⟩

end Printed

/-- An ASCII character is one octet. -/
theorem encode_cons {c : Char} (h : c.toNat < 0x80) (rest : List Char) :
    Text.Utf8.encode (c :: rest) = c.toNat.toUInt8 :: Text.Utf8.encode rest
      ∧ c.toNat.toUInt8.toNat = c.toNat := by
  have hoctet : Text.Utf8.encodeCode c.toNat = [c.toNat.toUInt8] := if_pos h
  constructor
  · rw [Text.Utf8.encode, List.flatMap_cons, hoctet]
    rfl
  · rw [Nat.toUInt8, UInt8.toNat_ofNat']
    omega

theorem itemsFrom_encode {text : List Char} (h : IsAscii text) :
    Text.Utf8.itemsFrom true none (Text.Utf8.encode text) = (codesOf text).map some := by
  induction text with
  | nil => rfl
  | cons c rest ih =>
      obtain ⟨hc, hrest⟩ := isAscii_cons.mp h
      obtain ⟨hencode, hback⟩ := encode_cons hc rest
      have hlead : Text.Utf8.lead true c.toNat = .whole c.toNat := if_pos hc
      rw [hencode, Text.Utf8.itemsFrom, hback, hlead]
      exact congrArg (some c.toNat :: ·) (ih hrest)

/-- ASCII text is read back, whatever encoding its first octets show. -/
theorem codes?_encode {text : List Char} (h : IsAscii text) :
    Text.Utf8.codes? (Text.Utf8.encode text) = some (codesOf text) := by
  rw [Text.Utf8.codes?, itemsFrom_encode h]
  induction codesOf text with
  | nil => rfl
  | cons code rest ih =>
      rw [List.map_cons, List.mapM_cons, ih]
      rfl

/-- An object begins with an octet that shows UTF-8. -/
theorem detect_brace {b : UInt8} (hb : b ≠ 0) (rest : List UInt8) :
    Encoding.detect (0x7B :: b :: rest) = .utf8 := by
  have hzeros : Encoding.ofZeros (0x7B :: b :: rest) = .utf8 := by
    unfold Encoding.ofZeros
    split
    · rename_i heq
      simp only [List.cons.injEq] at heq
      obtain ⟨rfl, rfl, -⟩ := heq
      rw [if_neg (by decide), if_neg hb]
    · rename_i heq
      simp only [List.cons.injEq] at heq
      obtain ⟨rfl, rfl, -⟩ := heq
      rw [if_neg (by decide), if_neg hb]
    · rfl
  exact hzeros

/-- The octets of what is written for an object of texts are read as this object. -/
theorem parseOctets_print (depth : Depth) {fields : List (String × String)}
    (hdistinct : (fields.map (·.1)).Nodup) :
    parseOctets depth (Text.Utf8.encode (Json.obj (Parser.texts fields)).print)
      = .ok (.obj (Parser.texts fields)) := by
  have hascii : IsAscii (Json.obj (Parser.texts fields)).print :=
    isAscii_append.mpr ⟨isAscii_cons.mpr ⟨by decide, isAscii_members fields⟩,
      isAscii_cons.mpr ⟨by decide, isAscii_nil⟩⟩
  have hdetect : Encoding.detect (Text.Utf8.encode (Json.obj (Parser.texts fields)).print)
      = .utf8 := by
    cases fields with
    | nil => exact detect_brace (by decide) _
    | cons field rest =>
        obtain ⟨body, hbody⟩ := Parser.exists_members field rest
        rw [print, Printer.value, hbody]
        exact detect_brace (by decide) _
  rw [parseOctets, codesOfOctets?, hdetect, Encoding.codes?, codes?_encode hascii]
  exact parse_print depth hdistinct

end Accounts.Json
