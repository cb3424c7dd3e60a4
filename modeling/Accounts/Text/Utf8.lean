/-!
# UTF-8

Encoding of code points as octets and a decoder that works octet by octet. The decoder yields one
item for every character and one for every maximal broken sequence; a strict reader refuses a text
with a broken item, a lenient one puts U+FFFD in its place. Surrogate code points are admitted on
request, for formats that carry UTF-16 units which were never paired.
-/

namespace Accounts.Text

/-- The code points of a text. -/
def codesOf (text : List Char) : List Nat := text.map Char.toNat

/-- Code points that make a text: there is no surrogate among them. -/
def IsText (codes : List Nat) : Prop := ∀ code ∈ codes, code.isValidChar

instance (codes : List Nat) : Decidable (IsText codes) :=
  inferInstanceAs (Decidable (∀ code ∈ codes, code.isValidChar))

namespace Utf8

def encodeCode (code : Nat) : List UInt8 :=
  if code < 0x80 then [code.toUInt8]
  else if code < 0x800 then [(0xC0 + code / 0x40).toUInt8, (0x80 + code % 0x40).toUInt8]
  else if code < 0x10000 then
    [(0xE0 + code / 0x1000).toUInt8, (0x80 + code / 0x40 % 0x40).toUInt8,
      (0x80 + code % 0x40).toUInt8]
  else
    [(0xF0 + code / 0x40000).toUInt8, (0x80 + code / 0x1000 % 0x40).toUInt8,
      (0x80 + code / 0x40 % 0x40).toUInt8, (0x80 + code % 0x40).toUInt8]

def encode (text : List Char) : List UInt8 := text.flatMap fun c => encodeCode c.toNat

/-- The octets of code points, if they are those of a text: a surrogate has none. -/
def encodeCodes? (codes : List Nat) : Option (List UInt8) :=
  if IsText codes then some (codes.flatMap encodeCode) else none

/-- A character begun: how many octets it still needs, the bounds of the next one, and the bits
read so far. -/
structure Pending where
  owed : Nat
  low : Nat
  high : Nat
  code : Nat

/-- What an octet between two characters does. -/
inductive Lead where
  | whole (code : Nat)
  | begun (pending : Pending)
  | broken

/-- The first octet of a character. With `surrogates`, U+D800 to U+DFFF are characters too. -/
def lead (surrogates : Bool) (b : Nat) : Lead :=
  if b < 0x80 then .whole b
  else if b < 0xC2 then .broken
  else if b < 0xE0 then .begun ⟨1, 0x80, 0xBF, b - 0xC0⟩
  else if b < 0xF0 then
    .begun ⟨2, if b = 0xE0 then 0xA0 else 0x80,
      if b = 0xED && !surrogates then 0x9F else 0xBF, b - 0xE0⟩
  else if b < 0xF5 then
    .begun ⟨3, if b = 0xF0 then 0x90 else 0x80, if b = 0xF4 then 0x8F else 0xBF, b - 0xF0⟩
  else .broken

/-- The items of an octet sequence, `none` standing for a broken sequence. An octet that cannot
continue the character begun ends it as broken and is read again as a first octet. -/
def itemsFrom (surrogates : Bool) : Option Pending → List UInt8 → List (Option Nat)
  | none, [] => []
  | some _, [] => [none]
  | none, b :: rest =>
    match lead surrogates b.toNat with
    | .whole code => some code :: itemsFrom surrogates none rest
    | .begun pending => itemsFrom surrogates (some pending) rest
    | .broken => none :: itemsFrom surrogates none rest
  | some p, b :: rest =>
    if p.low ≤ b.toNat ∧ b.toNat ≤ p.high then
      let code := p.code * 0x40 + b.toNat % 0x40
      if p.owed ≤ 1 then some code :: itemsFrom surrogates none rest
      else itemsFrom surrogates (some ⟨p.owed - 1, 0x80, 0xBF, code⟩) rest
    else match lead surrogates b.toNat with
      | .whole code => none :: some code :: itemsFrom surrogates none rest
      | .begun pending => none :: itemsFrom surrogates (some pending) rest
      | .broken => none :: none :: itemsFrom surrogates none rest

/-- The code points of a sequence without broken items, surrogates admitted. -/
def codes? (octets : List UInt8) : Option (List Nat) :=
  (itemsFrom true none octets).mapM id

/-- The text of a sequence; a broken item becomes U+FFFD. -/
def decodeLenient (octets : List UInt8) : List Char :=
  (itemsFrom false none octets).map fun item => Char.ofNat (item.getD 0xFFFD)

end Utf8

end Accounts.Text
