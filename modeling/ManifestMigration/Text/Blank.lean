/-! White space: the characters that separate words and are trimmed from the ends of a text.

    The class is Unicode's `White_Space` property, so it is wider than the four ASCII blanks. -/

namespace ManifestMigration.Text

/-- Has the Unicode property `White_Space`. -/
def isBlank (c : Char) : Bool :=
  let n := c.toNat
  (9 ≤ n && n ≤ 13) || n == 0x20 || n == 0x85 || n == 0xA0 || n == 0x1680 ||
    (0x2000 ≤ n && n ≤ 0x200A) || n == 0x2028 || n == 0x2029 || n == 0x202F || n == 0x205F ||
    n == 0x3000

/-- The text without blanks at its start. -/
def trimStart (s : List Char) : List Char := s.dropWhile isBlank

/-- The text without blanks at its end. -/
def trimEnd (s : List Char) : List Char := (s.reverse.dropWhile isBlank).reverse

/-- The text without blanks at either end. -/
def trim (s : List Char) : List Char := trimEnd (trimStart s)

/-! ### Cutting a text -/

/-- The pieces between the characters of the class `sep`, empty ones included. -/
def pieces (sep : Char → Bool) : List Char → List (List Char)
  | [] => [[]]
  | c :: s =>
    if sep c then [] :: pieces sep s
    else match pieces sep s with
      | [] => [[c]]
      | w :: ws => (c :: w) :: ws

/-- The non-empty pieces between the characters of the class `sep`. -/
def wordsBy (sep : Char → Bool) (s : List Char) : List (List Char) :=
  (pieces sep s).filter fun w => !w.isEmpty

/-- The words of a text, separated by blanks. -/
def words (s : List Char) : List (List Char) := wordsBy isBlank s

end ManifestMigration.Text
