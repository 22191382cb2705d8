import ManifestMigration.Text.Search

/-! Colored text for a terminal. -/

namespace ManifestMigration.Output

/-- How a piece of text stands out. -/
inductive Style where
  | bold | boldGreen | cyan | yellow
  deriving DecidableEq, Repr

namespace Style

/-- Ends every style. -/
def reset : List Char := "\x1b[0m".toList

/-- Starts a style. -/
def start (s : Style) : List Char :=
  match s with
  | bold => "\x1b[1m".toList
  | boldGreen => "\x1b[1;32m".toList
  | cyan => "\x1b[36m".toList
  | yellow => "\x1b[33m".toList

/-- The text with the style started again wherever the text itself ends it. -/
def restart (s : Style) : Nat → List Char → List Char
  | 0, text => text
  | n + 1, text =>
    match Text.splitOnce? reset text with
    | some (before, after) => before ++ reset ++ s.start ++ restart s n after
    | none => text

/-- The text in a style. -/
def paint (s : Style) (text : String) : String :=
  let inner := s.restart text.length text.toList
  String.ofList (s.start ++ inner ++ reset)

end Style

end ManifestMigration.Output
