import ManifestMigration.Backup.Slots
import ManifestMigration.Manifest.Mention
import ManifestMigration.Project

/-! Migrating a project: a backup, then the new manifest, then the rest of the directory.

    Whatever can be wrong with the manifest is found before it is written. -/

namespace ManifestMigration

/-- What a migration is asked to do. -/
structure MigrationOptions where
  path : Path
  ignoreSource : Bool
  virtualProject : Bool
  deriving DecidableEq, Repr

/-- What a migration did. -/
structure Report where
  project : String
  projectPath : Path
  backupPath : Path
  requirements : Requirements
  virtualProject : Bool
  lockfileRemoved : Bool
  moduleMovedTo : Option Path
  mentions : List Mention
  deriving DecidableEq, Repr

namespace Migration

/-- The name of the old tool. -/
def oldTool : String := "poetry"

/-- The path of the file in which the old tool keeps the versions that it chose. -/
def lockfile (root : Path) : Path := root.child "poetry.lock"

/-- A path from the root on. The working directory is given: that it cannot be found is left out. -/
def absolute (workingDirectory path : Path) : Action Path :=
  if path.text.isEmpty then throw .emptyPath else return path.absolute workingDirectory

/-- Removes the lock file, and answers whether there was one. -/
def removeLockfile (root : Path) : Action Bool := do
  let path := lockfile root
  if !(← Action.look fun t => t.isFile path) then return false
  Action.perform (.system path) fun t => t.removeFile path
  return true

/-- Moves the module under `src`, unless it is there, and answers where it went. -/
def moveModule (root : Path) (layout : Option Layout) : Action (Option Path) := do
  match layout with
  | none => return none
  | some l =>
    if l.inSource then return none
    let source := root.child sourceName
    Action.performPartly (.system source) fun t => t.makeDirectories source
    let target := l.target root
    Action.perform (.system l.modulePath) fun t => t.rename l.modulePath target
    return some target

/-- What is read from a project before anything is changed: the project, its requirements, and the
    text of the new manifest. -/
def plan (t : Tree) (root : Path) (o : MigrationOptions) :
    Except Failure (Project × Requirements × String) := do
  let project ← Project.load t root (!o.ignoreSource)
  let requirements := Requirements.ofDependencies (← project.dependencies)
  return (project, requirements, ← project.convert o.virtualProject requirements)

/-- Migrates a project that has been backed up. -/
def run (root backup : Path) (o : MigrationOptions) : Action Report := do
  let (project, requirements, text) ← Action.attempt fun t => plan t root o
  Project.writeManifest (Project.manifestPath root) text
  let lockfileRemoved ← removeLockfile root
  let moduleMovedTo ← moveModule root project.layout
  return {
    project := project.manifest.metadata.name
    projectPath := root
    backupPath := backup
    requirements, virtualProject := o.virtualProject
    lockfileRemoved, moduleMovedTo
    mentions := Mention.find oldTool text }

/-- Backs up a project and migrates it. -/
def migrate (workingDirectory : Path) (o : MigrationOptions) : Action Report := do
  let root ← absolute workingDirectory o.path
  let backup ← Backup.create root
  run root backup o

end Migration

end ManifestMigration
