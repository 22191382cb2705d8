import ManifestMigration.Text.Blank
import ManifestMigration.Version.Basic

/-! Reading a version: an optional `v`, the release, and then a pre-release mark, a post release
    mark and a development mark, each of them optional.

    A mark is a label in any case with an optional number; a `-`, `_` or `.` may stand before the
    label and after it. Blanks around the version are ignored. -/

namespace ManifestMigration

namespace Version

/-- The labels of the pre-release phases; of two labels that start a text the earlier is meant. -/
def preLabels : List (String × Phase) :=
  [("alpha", .alpha), ("beta", .beta), ("preview", .candidate), ("pre", .candidate),
   ("rc", .candidate), ("a", .alpha), ("b", .beta), ("c", .candidate)]

/-- The labels of a post release. -/
def postLabels : List (String × Unit) := [("post", ()), ("rev", ()), ("r", ())]

/-- The label of a development release. -/
def devLabels : List (String × Unit) := [("dev", ())]

/-- The lower-case form of a letter of a label; the long s counts as an s. -/
def foldLetter (c : Char) : Char := if c == 'ſ' then 's' else c.toLower

/-- What follows the label, when the text starts with it in any case. -/
def dropLabel? : List Char → List Char → Option (List Char)
  | [], s => some s
  | _ :: _, [] => none
  | l :: label, c :: s => if foldLetter c == l then dropLabel? label s else none

/-- The text without a `-`, `_` or `.` at its start. -/
def dropSeparator : List Char → List Char
  | c :: s => if c == '-' || c == '_' || c == '.' then s else c :: s
  | [] => []

/-- The number of a mark: zero when it is left out or does not fit a word. -/
def markNumber (digits : List Char) : Nat := (Text.word? digits).getD 0

/-- Reads a mark with one of the labels, and answers what it says, its number and the rest. -/
def readMark? {α : Type} (labels : List (String × α)) (s : List Char) :
    Option ((α × Nat) × List Char) :=
  let t := dropSeparator s
  labels.findSome? fun (label, meant) =>
    (dropLabel? label.toList t).map fun t =>
      let (digits, rest) := Text.splitDigits (dropSeparator t)
      ((meant, markNumber digits), rest)

/-- Reads a mark if there is one. -/
def readMark {α : Type} (labels : List (String × α)) (s : List Char) :
    Option (α × Nat) × List Char :=
  match readMark? labels s with
  | some (mark, rest) => (some mark, rest)
  | none => (none, s)

/-- Reads the segments that follow a release's first one, and the rest of the text. -/
def readTail : List Char → List (List Char) × List Char
  | '.' :: s =>
    if (Text.splitDigits s).1.isEmpty then ([], '.' :: s)
    else
      let (more, rest) := readTail (Text.splitDigits s).2
      ((Text.splitDigits s).1 :: more, rest)
  | s => ([], s)
termination_by s => s.length
decreasing_by
  have := Text.length_splitDigits_le s
  simp only [List.length_cons]
  omega

/-- The text without one leading `v` of either case. -/
def dropV : List Char → List Char
  | c :: s => if c == 'v' || c == 'V' then s else c :: s
  | [] => []

/-- Reads a version that fills the whole text. -/
def ofText? (text : List Char) : Option Version :=
  let first := Text.splitDigits text
  let more := readTail first.2
  let pre := readMark preLabels more.2
  let post := readMark postLabels pre.2
  let dev := readMark devLabels post.2
  match Text.word? first.1, more.1.mapM Text.word?, dev.2 with
  | some major, some tail, [] =>
    some ⟨major, tail, pre.1, post.1.map (·.2), dev.1.map (·.2), String.ofList text⟩
  | _, _, _ => none

/-- Reads a version, or answers `none` when the text is not one. -/
def parse? (s : String) : Option Version := ofText? (dropV (Text.trim s.toList))

end Version

end ManifestMigration
