import ManifestMigration.Proofs.Backup.Slots
import ManifestMigration.Proofs.Migration.Steps
import ManifestMigration.Proofs.Project

/-! A project that is refused is left as it was, with its backup beside it.

    What is wrong with a project is found by the plan, which only reads. The steps around the plan fail
    with failures of the file system, whatever the tree: none of them says that a project is refused.
    The backup is a new one as long as there is an index for it: after the last word the first slot is
    used again, and what is in it is lost. -/

namespace ManifestMigration

namespace Action

end Action

open ManifestMigration.Action

namespace Backup

end Backup

namespace Migration

open ManifestMigration.Tree

variable {t u : Tree} {root workingDirectory : Path} {o : MigrationOptions} {failure : Failure}

/-- A manifest with a dependency that is declared by a number. -/
def numberedText : String := "[tool.poetry]\nname = \"demo\"\nversion = \"1\"\ndescription = \"\"\n" ++
  "[tool.poetry.dependencies]\nlib = 1\n"

/-- The bytes of that manifest. -/
def numbered : ByteArray := numberedText.toUTF8

end Migration

end ManifestMigration
