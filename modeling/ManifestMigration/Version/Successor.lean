import ManifestMigration.Version.Order

/-! The versions at which a series ends: the next major, minor and patch release, and the next one
    that may break compatibility.

    A segment that already holds the largest word has no successor. For an unstable version the
    boundary may be its own release, which it only leads up to. -/

namespace ManifestMigration

namespace Version

/-- Raises the first segment and clears the others. -/
def bumpMajor? (v : Version) : Option Version :=
  (Text.nextWord? v.major).map fun major => final major (v.tail.map fun _ => 0)

/-- Raises the second segment and clears those after it. -/
def bumpMinor? (v : Version) : Option Version :=
  match v.tail with
  | [] => none
  | minor :: more =>
    (Text.nextWord? minor).map fun next => final v.major (next :: more.map fun _ => 0)

/-- The first release of the next major series, as long as this one is. -/
def nextMajor? (v : Version) : Option Version :=
  if v.isStable || (final v.major []).before v then v.bumpMajor?
  else some (final v.major v.tail)

/-- The first release of the next minor series, as long as this one is; of the next major series
    when there is no minor segment. -/
def nextMinor? (v : Version) : Option Version :=
  match v.minor? with
  | none => v.nextMajor?
  | some minor =>
    if v.isStable || (final v.major [minor]).before v then v.bumpMinor?
    else some (final v.major v.tail)

/-- The next patch release, cut to three segments; for an unstable version its own release. -/
def nextPatch? (v : Version) : Option Version :=
  if v.isStable then
    (Text.nextWord? (v.patch?.getD 0)).map fun patch => final v.major [v.minor?.getD 0, patch]
  else some (final v.major v.tail)

/-- The smallest release that may break compatibility with this version: it raises the first
    of the first three segments that is not zero, or the last of them that is written. -/
def nextBreaking? (v : Version) : Option Version :=
  match v.minor?, v.patch? with
  | none, _ => v.nextMajor?
  | some minor, patch =>
    if v.major > 0 then v.nextMajor?
    else if minor > 0 || patch.isNone then v.nextMinor?
    else v.nextPatch?

end Version

end ManifestMigration
