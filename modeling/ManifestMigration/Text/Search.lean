/-! Looking for a text inside another, and the lines of a text.

    A line ends with a line feed, to which a carriage return before it belongs. -/

namespace ManifestMigration.Text

/-- What follows the needle, when the text starts with it. -/
def dropPrefix? : List Char → List Char → Option (List Char)
  | [], s => some s
  | _ :: _, [] => none
  | n :: needle, c :: s => if c == n then dropPrefix? needle s else none

/-- The text before the first place where the needle occurs, and the text after it. -/
def splitOnce? (needle : List Char) : List Char → Option (List Char × List Char)
  | [] => if needle.isEmpty then some ([], []) else none
  | c :: s =>
    match dropPrefix? needle (c :: s) with
    | some rest => some ([], rest)
    | none => (splitOnce? needle s).map fun (before, rest) => (c :: before, rest)

/-- The needle occurs in the text. -/
def occursIn (needle s : List Char) : Bool := (splitOnce? needle s).isSome

/-- The lines of a text. What follows the last line feed is a line unless it is empty. -/
def lines : List Char → List (List Char)
  | [] => []
  | '\r' :: '\n' :: s => [] :: lines s
  | '\n' :: s => [] :: lines s
  | c :: s =>
    match lines s with
    | [] => [[c]]
    | line :: more => (c :: line) :: more

end ManifestMigration.Text
