import ManifestMigration.Filesystem.Path
import ManifestMigration.Text.Digit
import ManifestMigration.Text.Search

/-! The names of backups: `.__p2r_backup_<project>_<index>`.

    The project's name may itself hold low lines and digits, so the index is what follows the last
    low line. -/

namespace ManifestMigration

/-- A place for a backup of a project, by the project's name and an index. -/
structure Slot where
  project : String
  index : Nat
  deriving DecidableEq, Repr

namespace Slot

/-- The start of every backup's name. -/
def tag : String := ".__p2r_backup_"

/-- The name of a backup. -/
def name (s : Slot) : String := tag ++ s.project ++ "_" ++ toString s.index

/-- The text before its last low line, and the text after it. -/
def splitLast? (s : List Char) : Option (List Char × List Char) :=
  match s.reverse.dropWhile (· != '_') with
  | '_' :: before => some (before.reverse, (s.reverse.takeWhile (· != '_')).reverse)
  | _ => none

/-- Reads the name of a backup. The name of the project is not empty and has no line feed, and the
    index fits a word. -/
def parse? (name : String) : Option Slot := do
  let (project, digits) ← Text.dropPrefix? tag.toList name.toList >>= splitLast?
  if project.isEmpty || project.contains '\n' then none
  else return ⟨String.ofList project, ← Text.word? digits⟩

end Slot

/-- The path of a backup, which is beside the project. A path without a last name has no backups. -/
def Path.backup? (project : Path) (index : Nat) : Option Path :=
  project.name?.map fun name =>
    (project.parent?.getD ⟨"."⟩).child (Slot.name ⟨name, index⟩)

end ManifestMigration
