import ManifestMigration.Constraint.Specifier
import ManifestMigration.Marker

/-! Dependencies: packages from a registry, in versions that a constraint allows, and packages from
    a git repository. Each is written as one requirement, such as `httpx[http2]>=0.24,<0.25`. -/

namespace ManifestMigration

/-- Which table of a manifest a dependency is declared in. -/
inductive Group where
  | main | dev
  deriving DecidableEq, Repr

/-- Where the package comes from. -/
inductive Dependency.Source where
  /-- A registry; `interpreter?` is a condition on the interpreter's version. -/
  | registry (constraint : Constraint) (interpreter? : Option String)
  /-- A git repository. -/
  | git (url : String) (tag? : Option String)
  deriving DecidableEq, Repr

/-- A dependency of a project. -/
structure Dependency where
  name : String
  extras : List String
  group : Group
  source : Dependency.Source
  deriving DecidableEq, Repr

namespace Dependency

/-- The name under which a manifest declares its interpreter requirement. -/
def interpreterName : String := "python"

/-- The constraint on the interpreter, when the dependency is not a package but that. -/
def interpreter? (d : Dependency) : Option Constraint :=
  match d.source with
  | .registry constraint _ => if d.name == interpreterName then some constraint else none
  | .git _ _ => none

/-- The name, with the extras in brackets. -/
def qualifiedName (d : Dependency) : String :=
  if d.extras.isEmpty then d.name else d.name ++ "[" ++ ",".intercalate d.extras ++ "]"

/-- The requirement that asks for the dependency. A dependency in any version is only named,
    whatever its condition on the interpreter. -/
def requirement (d : Dependency) : String :=
  match d.source with
  | .registry constraint interpreter? =>
    if constraint.isAny then d.qualifiedName
    else
      let versions := constraint.specifier.text
      let condition := match interpreter? with
        | some said => "; python_version " ++ Marker.quoteVersions said
        | none => ""
      d.qualifiedName ++ (if versions == "*" then "" else versions) ++ condition
  | .git url tag? =>
    d.qualifiedName ++ " @ git+" ++ url ++ (match tag? with | some tag => "@" ++ tag | none => "")

/-- The requirement allows more versions than the declaration did. -/
def isWidened (d : Dependency) : Bool :=
  match d.source with
  | .registry constraint _ => !constraint.isAny && constraint.specifier.widened
  | .git _ _ => false

end Dependency

end ManifestMigration
