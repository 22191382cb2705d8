import ManifestMigration.Layout
import ManifestMigration.Manifest.Conversion

/-! A project that can be migrated: its manifest, and where its module is. -/

namespace ManifestMigration

/-- A project in a directory. Without a layout, the module is left where it is. -/
structure Project where
  root : Path
  manifest : Manifest
  layout : Option Layout

namespace Project

/-- The path of the manifest of a project. -/
def manifestPath (root : Path) : Path := root.child "pyproject.toml"

/-- Reads the text of a manifest. -/
def readManifest (t : Tree) (path : Path) : Except Failure String :=
  match t.readText path with
  | .ok text => .ok text
  | .error e => .error (.unreadableManifest path e)

/-- Writes the text of a manifest. -/
def writeManifest (path : Path) (text : String) : Action Unit :=
  Action.perform (.unwritableManifest path) fun t => t.write path text.toUTF8

/-- Loads a project; `locate` asks where its module is. -/
def load (t : Tree) (root : Path) (locate : Bool) : Except Failure Project := do
  let path := manifestPath root
  if !t.isFile path then throw (.noManifest path)
  let text ← readManifest t path
  match Manifest.parse text with
  | .error e => throw (.manifest path e)
  | .ok manifest =>
    if locate then return ⟨root, manifest, some (← Layout.find t root manifest.metadata.name)⟩
    else return ⟨root, manifest, none⟩

/-- The dependencies of a project. -/
def dependencies (p : Project) : Except Failure (List Dependency) :=
  match p.manifest.dependencies with
  | .ok ds => .ok ds
  | .error e => .error (.dependency e)

/-- The text of the new manifest. -/
def convert (p : Project) (virtualProject : Bool) (r : Requirements) : Except Failure String :=
  match p.manifest.convert virtualProject r with
  | .ok text => .ok text
  | .error (.manifest cause) => .error (.manifest (manifestPath p.root) cause)
  | .error (.malformedPerson entry) => .error (.malformedPerson entry)

end Project

end ManifestMigration
