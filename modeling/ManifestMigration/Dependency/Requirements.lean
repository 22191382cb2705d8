import ManifestMigration.Dependency.Basic

/-! The requirements of a project: what its dependencies come to in the new manifest. -/

namespace ManifestMigration

/-- The interpreter requirement and the requirements of both groups. -/
structure Requirements where
  interpreter : Option String
  main : List String
  dev : List String
  deriving DecidableEq, Repr

namespace Requirements

/-- The interpreter requirement that a dependency states. One that allows every interpreter states
    nothing. -/
def interpreterOf? (d : Dependency) : Option String :=
  match d.interpreter? with
  | some c => if c.isAny then none else some c.interpreterSpecifier
  | none => none

/-- The dependencies of a group that are packages. -/
def packages (group : Group) (ds : List Dependency) : List Dependency :=
  ds.filter fun d => d.interpreter?.isNone && d.group == group

/-- The requirements that dependencies come to. Of several interpreter requirements the last one
    holds. -/
def ofDependencies (ds : List Dependency) : Requirements where
  interpreter := (ds.filterMap interpreterOf?).getLast?
  main := (packages .main ds).map Dependency.requirement
  dev := (packages .dev ds).map Dependency.requirement

end Requirements

end ManifestMigration
