import ManifestMigration.Dependency.Declaration
import ManifestMigration.Filesystem.Path
import ManifestMigration.Filesystem.SystemError
import ManifestMigration.Manifest.Metadata

/-! Why a migration or a restoration is given up, and what is said about it.

    Most failures are the user's to mend. The others (`Failure.isFault`) are unexpected: an entry of
    the authors or maintainers that is not a person, and a backup that is not there. -/

namespace ManifestMigration

/-- The causes, each with the paths and texts that it is about. -/
inductive Failure where
  | noManifest (path : Path)
  | unreadableManifest (path : Path) (cause : SystemError)
  | unwritableManifest (path : Path) (cause : SystemError)
  | manifest (path : Path) (cause : Manifest.Error)
  | noModule (source : Path)
  | manyModules (source : Path) (found : List String)
  | moduleNotFound (path : Path)
  | dependency (cause : Dependency.Error)
  | directoryNotFound (path : Path)
  | system (path : Path) (cause : SystemError)
  /-- A directory that is to be copied cannot be entered. -/
  | walk (path : Path) (cause : SystemError)
  | emptyPath
  | malformedPerson (entry : String)
  | noBackup (project : Path)
  | backupNotFound (backup : Path)
  deriving DecidableEq

namespace Failure

/-- What is said about a text that is no manifest. -/
def manifestMessage (path : String) : Manifest.Error → String
  | .invalidToml => s!"failed to parse TOML in {path}: invalid document"
  | .alreadyMigrated =>
    s!"unsupported pyproject.toml in {path}: a [project] section already exists; " ++
      "only manifests written with [tool.poetry] are supported"
  | .noPoetrySection => s!"unsupported pyproject.toml in {path}: no [tool.poetry] section found"
  | .missingField field => s!"required field 'tool.poetry.{field}' is missing in {path}"

/-- The failure as a message. -/
def message : Failure → String
  | noManifest path => s!"pyproject.toml not found: {path.text}"
  | unreadableManifest path cause =>
    s!"failed to read manifest file {path.text}: {cause.message}"
  | unwritableManifest path cause =>
    s!"failed to write manifest file {path.text}: {cause.message}"
  | manifest path cause => manifestMessage path.text cause
  | noModule source => s!"no module directory found in {source.text}"
  | manyModules source found =>
    s!"expected exactly one module directory in {source.text}, found: " ++ ", ".intercalate found
  | moduleNotFound path => s!"module not found: {path.text}"
  | dependency cause => cause.message
  | directoryNotFound path => s!"directory not found: {path.text}"
  | system path cause => s!"IO error at {path.text}: {cause.message}"
  | walk path cause =>
    s!"IO error at {path.text}: IO error for operation on {path.text}: {cause.message}"
  | emptyPath => "IO error at : cannot make an empty path absolute"
  | malformedPerson entry =>
    s!"malformed author/maintainer entry '{entry}': expected exactly 'Name <email>'"
  | noBackup project => s!"no backup found for {project.text}"
  | backupNotFound backup => s!"backup not found: {backup.text}"

/-- The failure is not one that a user is expected to meet. -/
def isFault : Failure → Bool
  | malformedPerson _ | noBackup _ | backupNotFound _ => true
  | _ => false

end Failure

end ManifestMigration
