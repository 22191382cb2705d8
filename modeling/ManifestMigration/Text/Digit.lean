/-! Decimal digits and the whole numbers written with them.

    A digit may come from any script (Unicode's class `Nd`), but a number is read from ASCII digits
    alone, and only when it fits a 64-bit word. -/

namespace ManifestMigration.Text

/-- The digit zero of every script; each is followed by the digits one to nine. -/
def digitZeros : List Nat :=
  [0x30, 0x660, 0x6F0, 0x7C0, 0x966, 0x9E6, 0xA66, 0xAE6, 0xB66, 0xBE6, 0xC66, 0xCE6, 0xD66, 0xDE6,
   0xE50, 0xED0, 0xF20, 0x1040, 0x1090, 0x17E0, 0x1810, 0x1946, 0x19D0, 0x1A80, 0x1A90, 0x1B50,
   0x1BB0, 0x1C40, 0x1C50, 0xA620, 0xA8D0, 0xA900, 0xA9D0, 0xA9F0, 0xAA50, 0xABF0, 0xFF10, 0x104A0,
   0x10D30, 0x10D40, 0x11066, 0x110F0, 0x11136, 0x111D0, 0x112F0, 0x11450, 0x114D0, 0x11650,
   0x116C0, 0x116D0, 0x116DA, 0x11730, 0x118E0, 0x11950, 0x11BF0, 0x11C50, 0x11D50, 0x11DA0,
   0x11F50, 0x16130, 0x16A60, 0x16AC0, 0x16B50, 0x16D70, 0x1CCF0, 0x1D7CE, 0x1D7D8, 0x1D7E2,
   0x1D7EC, 0x1D7F6, 0x1E140, 0x1E2F0, 0x1E4F0, 0x1E5F1, 0x1E950, 0x1FBF0]

/-- Is a decimal digit of some script. -/
def isDigit (c : Char) : Bool :=
  digitZeros.any fun z => z ≤ c.toNat && c.toNat < z + 10

/-- The longest run of digits that starts the text, and the rest. -/
def splitDigits (s : List Char) : List Char × List Char :=
  (s.takeWhile isDigit, s.dropWhile isDigit)

/-- Nothing is added to the rest. -/
theorem length_splitDigits_le (s : List Char) : (splitDigits s).2.length ≤ s.length :=
  (List.dropWhile_suffix isDigit).length_le

/-- One more than the largest number that a 64-bit word holds. -/
def wordLimit : Nat := 0x10000000000000000

/-- The number that a run of ASCII digits writes, when it fits a word. -/
def word? (digits : List Char) : Option Nat :=
  if !digits.isEmpty && digits.all Char.isDigit then
    let n := Nat.ofDigitChars 10 digits 0
    if n < wordLimit then some n else none
  else none

/-- The next number of a word, when there is one. -/
def nextWord? (n : Nat) : Option Nat := if n + 1 < wordLimit then some (n + 1) else none

/-- The next number of a word, where zero comes after the largest one. -/
def nextWord (n : Nat) : Nat := (n + 1) % wordLimit

theorem nextWord_of_lt {n : Nat} (h : n + 1 < wordLimit) : nextWord n = n + 1 := Nat.mod_eq_of_lt h

end ManifestMigration.Text
