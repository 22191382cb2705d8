import ManifestMigration.Constraint.Reader
import ManifestMigration.Dependency.Basic
import ManifestMigration.Toml.Data

/-! Reading dependency declarations: a constraint with an optional marker, a table with a version or
    a git repository, or an array of such tables. -/

namespace ManifestMigration

/-- Why a declaration is refused. -/
inductive Dependency.Error where
  | unsupportedKey (dependency key : String)
  | unsupportedShape (dependency : String)
  | invalidConstraint (dependency constraint : String) (cause : Constraint.Error)
  deriving DecidableEq, Repr

/-- The error as a message. -/
def Dependency.Error.message : Dependency.Error → String
  | .unsupportedKey dependency key => s!"unsupported key '{key}' in dependency '{dependency}'"
  | .unsupportedShape dependency =>
    s!"unsupported declaration for dependency '{dependency}': " ++
      "expected a version string, or a table with 'version' or 'git'"
  | .invalidConstraint dependency constraint cause =>
    s!"invalid version constraint '{constraint}' for dependency '{dependency}': {cause.message}"

namespace Dependency

/-- The keys of a table that declares a git repository. -/
def gitKeys : List String := ["git", "tag", "extras"]

/-- The keys of a table that declares a version. -/
def versionKeys : List String := ["version", "extras", "python"]

/-- Reads a constraint. -/
def readConstraint (name text : String) : Except Error Constraint :=
  match Constraint.parse text with
  | .ok c => .ok c
  | .error cause => .error (.invalidConstraint name text cause)

/-- Reads a declaration that is one text. -/
def ofText (name : String) (group : Group) (declaration : String) : Except Error Dependency := do
  let (range, marker?) := Marker.split declaration
  let constraint ← readConstraint name range
  return ⟨name, [], group, .registry constraint (marker? >>= Marker.interpreter?)⟩

/-- A declaration uses only the given keys. -/
def checkKeys (name : String) (allowed : List String) (entries : List (String × Toml.Data)) :
    Except Error Unit :=
  match entries.find? fun e => !allowed.contains e.1 with
  | some (key, _) => .error (.unsupportedKey name key)
  | none => .ok ()

/-- Reads a value that has to be a text. -/
def readText (name : String) (value : Toml.Data) : Except Error String :=
  match value.string? with
  | some text => .ok text
  | none => .error (.unsupportedShape name)

/-- Reads the extras of a table; without the key there are none. -/
def readExtras (name : String) (entries : List (String × Toml.Data)) :
    Except Error (List String) :=
  match entries.lookup "extras" with
  | none => .ok []
  | some (.array items) => items.mapM (readText name)
  | some _ => .error (.unsupportedShape name)

/-- Reads a text that may be left out. -/
def readOptional (name key : String) (entries : List (String × Toml.Data)) :
    Except Error (Option String) :=
  match entries.lookup key with
  | none => .ok none
  | some value => some <$> readText name value

/-- Reads a declaration that is a table. -/
def ofTable (name : String) (group : Group) (entries : List (String × Toml.Data)) :
    Except Error Dependency :=
  match entries.lookup "git", entries.lookup "version" with
  | some git, _ => do
    checkKeys name gitKeys entries
    let url ← readText name git
    let extras ← readExtras name entries
    let tag? ← readOptional name "tag" entries
    return ⟨name, extras, group, .git url tag?⟩
  | none, some version => do
    checkKeys name versionKeys entries
    let constraint ← readConstraint name (← readText name version)
    let extras ← readExtras name entries
    let said? ← readOptional name "python" entries
    let trimmed := fun (said : String) => String.ofList (Text.trim said.toList)
    return ⟨name, extras, group, .registry constraint (said?.map trimmed)⟩
  | none, none => .error (.unsupportedShape name)

/-- Reads a declaration, which may stand for several dependencies. -/
def ofDeclaration (name : String) (group : Group) : Toml.Data → Except Error (List Dependency)
  | .scalar (.string declaration) => (fun d => [d]) <$> ofText name group declaration
  | .table entries => (fun d => [d]) <$> ofTable name group entries
  | .array variants => variants.mapM fun variant =>
    match variant with
    | .table entries => ofTable name group entries
    | _ => .error (.unsupportedShape name)
  | _ => .error (.unsupportedShape name)

/-- Reads all declarations of a table, in their order. -/
def ofDeclarations (group : Group) (table : List (String × Toml.Data)) :
    Except Error (List Dependency) := do
  let each ← table.mapM fun (name, value) => ofDeclaration name group value
  return each.flatten

end Dependency

end ManifestMigration
