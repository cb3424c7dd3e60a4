import Accounts.Text.Case

/-!
# Letters that differ in case only

When case does not count, letters are taken for one that have the same small letter, or whose small
letters have the same capital. `caseVariants` lists the letters that are taken for a given one.
-/

namespace Accounts.Text

/-- Small letters that share their capital with other small letters, class by class. -/
def smallVariants : List (List Nat) :=
  [[0x69, 0x131], [0x73, 0x17F], [0xB5, 0x3BC], [0x345, 0x3B9, 0x1FBE], [0x390, 0x1FD3],
    [0x3B0, 0x1FE3], [0x3B2, 0x3D0], [0x3B5, 0x3F5], [0x3B8, 0x3D1], [0x3BA, 0x3F0],
    [0x3C0, 0x3D6], [0x3C1, 0x3F1], [0x3C2, 0x3C3], [0x3C6, 0x3D5], [0x432, 0x1C80],
    [0x434, 0x1C81], [0x43E, 0x1C82], [0x441, 0x1C83], [0x442, 0x1C84, 0x1C85], [0x44A, 0x1C86],
    [0x463, 0x1C87], [0x1C88, 0xA64B], [0x1E61, 0x1E9B], [0xFB05, 0xFB06]]

/-- Letters with a small letter whose capital is another letter, or several. -/
def secondCapitals : List Nat :=
  [0x130, 0x1C5, 0x1C8, 0x1CB, 0x1F2, 0x3F4, 0x1E9E, 0x1FBC, 0x1FCC, 0x1FFC, 0x2126, 0x212A,
    0x212B] ++ [0x1F88, 0x1F98, 0x1FA8].flatMap fun first => (List.range 8).map (first + ·)

/-- The small letter of a character, as one character. -/
def smallCode (code : Nat) : Nat := if code = 0x130 then 0x69 else CaseRun.map lowerRuns code

/-- The capital of a character, as one character. -/
def capitalCode (code : Nat) : Nat := CaseRun.map upperRuns code

/-- All the characters that are the same as a given one when case does not count. -/
def caseVariants (c : Char) : List Char :=
  let small := smallCode c.toNat
  let smalls := (smallVariants.find? (·.contains small)).getD [small]
  let capitals := smalls.map capitalCode ++
    secondCapitals.filter fun code => smalls.contains (smallCode code)
  (smalls ++ capitals).map Char.ofNat

/-- The same for the letters of ASCII only. -/
def asciiCaseVariants (c : Char) : List Char := [c.toLower, c.toUpper]

end Accounts.Text
