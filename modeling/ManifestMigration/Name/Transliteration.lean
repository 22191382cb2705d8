import ManifestMigration.Name.Transliteration.Han
import ManifestMigration.Name.Transliteration.Letters
import ManifestMigration.Name.Transliteration.Pictures
import ManifestMigration.Name.Transliteration.Signs
import ManifestMigration.Name.Transliteration.Syllables
import ManifestMigration.Text.Blank

/-! Writing any text in ASCII: letters by their sounds or shapes, and Han characters by their
    readings.

    Case is kept for ASCII only; all else is written in lower case. -/

namespace ManifestMigration.Name

/-- The last row that starts at the code point or before it, in rows of ascending order. -/
def rowOf? (n : Nat) : List (Nat × String) → Option (Nat × String)
  | [] => none
  | row :: rows => if n < row.1 then none else (rowOf? n rows).or (some row)

/-- A row that is found starts at the code point or before it. -/
theorem le_of_rowOf?_eq_some {n : Nat} {row : Nat × String} :
    ∀ {rows : List (Nat × String)}, rowOf? n rows = some row → row.1 ≤ n
  | [], h => by simp [rowOf?] at h
  | first :: rows, h => by
    simp only [rowOf?] at h
    split at h
    · cases h
    · rename_i hn
      rcases Option.or_eq_some_iff.1 h with h | ⟨-, h⟩
      · exact le_of_rowOf?_eq_some h
      · cases h; exact Nat.le_of_not_lt hn

/-- The text of a character in rows of ascending order. -/
def rowText? (rows : List (Nat × String)) (c : Char) : Option String := do
  let (first, texts) ← rowOf? c.toNat rows
  let text ← (Text.words texts.toList)[c.toNat - first]?
  return if text == ['_'] then "" else String.ofList text

/-- The text of a letter, a sign or a picture. -/
def letterText? (c : Char) : Option String :=
  rowText? letterRows c <|> rowText? signRows c <|> rowText? syllableRows c
    <|> rowText? pictureRows c

/-- The reading of a Han character among some readings. -/
def readingOf? (readings : List (String × String)) (c : Char) : Option String :=
  (readings.find? fun entry => entry.2.toList.contains c).map (·.1)

/-- The text of a Han character: its reading, and a blank after one that is a word. -/
def hanText? (c : Char) : Option String :=
  (readingOf? hanWords c).map (· ++ " ") <|> readingOf? hanSyllables c

/-- The letters at the start of a Hangul syllable. -/
def hangulInitials : List String :=
  ["g", "gg", "n", "d", "dd", "r", "m", "b", "bb", "s", "ss", "", "j", "jj", "c", "k", "t", "p",
   "h"]

/-- The letters in the middle of a Hangul syllable. -/
def hangulVowels : List String :=
  ["a", "ae", "ya", "yae", "eo", "e", "yeo", "ye", "o", "wa", "wae", "oe", "yo", "u", "weo", "we",
   "wi", "yu", "eu", "yi", "i"]

/-- The letters at the end of a Hangul syllable. -/
def hangulFinals : List String :=
  ["", "g", "gg", "gs", "n", "nj", "nh", "d", "l", "lg", "lm", "lb", "ls", "lt", "lp", "lh", "m",
   "b", "bs", "s", "ss", "ng", "j", "c", "k", "t", "p", "h"]

/-- The letters of a Hangul syllable. The syllables are in the order of their letters. -/
def hangulText? (c : Char) : Option String := do
  let n := c.toNat
  if n < 0xAC00 || 0xD7A3 < n then none
  else
    let i := n - 0xAC00
    let start ← hangulInitials[i / 588]?
    let middle ← hangulVowels[i % 588 / 28]?
    let finish ← hangulFinals[i % 28]?
    return start ++ middle ++ finish

/-- The ASCII character that a wide one stands for. -/
def narrow? (c : Char) : Option String :=
  if 0xFF01 ≤ c.toNat && c.toNat ≤ 0xFF5E then
    some (String.singleton (Char.ofNat (c.toNat - 0xFEE0)))
  else none

/-- A character in ASCII. ASCII stays as it is, and what has no text of its own is a blank. -/
def transliterate (c : Char) : List Char :=
  if c.toNat < 0x80 then [c]
  else ((narrow? c <|> letterText? c <|> hangulText? c <|> hanText? c).getD " ").toList

/-- ASCII stays as it is. -/
theorem transliterate_of_lt {c : Char} (h : c.toNat < 0x80) : transliterate c = [c] := by
  simp [transliterate, h]

end ManifestMigration.Name
