import ManifestMigration.Filesystem.Copy
import ManifestMigration.Name.Canonical

/-! Where the module of a project is: under `src`, or beside the manifest.

    When there is a directory `src`, the module is the one directory in it that is not hidden.
    Otherwise the module is named after the project, and has to be moved under `src`. -/

namespace ManifestMigration

/-- The directory that modules go under. -/
def sourceName : String := "src"

/-- Where the module of a project is. -/
structure Layout where
  moduleName : String
  modulePath : Path
  inSource : Bool
  deriving DecidableEq, Repr

namespace Layout

/-- Where the module has to be in the end. -/
def target (l : Layout) (root : Path) : Path := (root.child sourceName).child l.moduleName

/-- The names of the directories in `source` that are not hidden, in order. -/
def candidates (t : Tree) (source : Path) (names : List String) : List String :=
  let found := names.filter fun name =>
    !(name.toList.head? == some '.') && t.isDirectory (source.child name)
  found.mergeSort fun a b => a ≤ b

/-- Finds the module of a project. -/
def find (t : Tree) (root : Path) (project : String) : Except Failure Layout :=
  let source := root.child sourceName
  if t.isDirectory source then
    match t.list source with
    | .error e => .error (.system source e)
    | .ok entries =>
      match candidates t source (entries.map (·.1)) with
      | [] => .error (.noModule source)
      | [name] => .ok ⟨name, source.child name, true⟩
      | names => .error (.manyModules source names)
  else
    let name := Name.moduleOf project
    let path := root.child name
    if t.isDirectory path then .ok ⟨name, path, false⟩ else .error (.moduleNotFound path)

end Layout

end ManifestMigration
