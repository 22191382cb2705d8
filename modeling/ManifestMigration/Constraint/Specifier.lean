import ManifestMigration.Constraint.Basic
import ManifestMigration.Version.Successor

/-! Constraints as version specifiers: comma-separated clauses, all of which have to hold.

    Clauses cannot say "or", so a union becomes the range around it and one exclusion for each gap.
    A gap that no single exclusion describes is left out, and the specifier then allows more than
    the constraint does. -/

namespace ManifestMigration

/-- The text of a specifier, and whether it allows more than it was made from. -/
structure Specifier where
  text : String
  widened : Bool
  deriving DecidableEq, Repr

namespace Constraint

/-- The series that a pinned version of one or two segments stands for, if the series has an end. -/
def pinSeries? (v : Version) : Option VersionRange :=
  match v.tail with
  | [] =>
    let floor := Version.final v.major [0]
    floor.nextBreaking?.map (VersionRange.halfOpen floor)
  | [minor] =>
    let floor := Version.final v.major [minor]
    floor.nextMinor?.map (VersionRange.halfOpen floor)
  | _ => none

/-- A pinned version. Only three segments make a pin; a shorter version stands for its series. -/
def exactSpecifier (v : Version) : String :=
  match pinSeries? v with
  | some r => r.render
  | none => "==" ++ v.text

/-- The release has only zeros from the segment at `i` on. -/
def zerosFrom (v : Version) (i : Nat) : Bool := (v.release.drop i).all (· == 0)

/-- The version is the given one, if that exists. -/
def isNext (next? : Option Version) (v : Version) : Bool :=
  match next? with
  | some w => w.same v
  | none => false

/-- A clause that keeps versions out: a single one, or the series of a first or of a first and
    second segment. -/
inductive Exclusion where
  | single (v : Version)
  | majorSeries (major : Nat)
  | minorSeries (major minor : Nat)
  deriving DecidableEq, Repr

/-- The exclusion as a clause. -/
def Exclusion.text : Exclusion → String
  | .single v => "!=" ++ v.text
  | .majorSeries major => s!"!={major}.*"
  | .minorSeries major minor => s!"!={major}.{minor}.*"

/-- The exclusion that describes the gap between two neighbouring ranges, if there is one. -/
def gapExclusion? (low high : VersionRange) : Option Exclusion :=
  match low.upper, high.lower with
  | some start, some stop =>
    if start.same stop && !low.closedUpper && !high.closedLower then some (.single start)
    else if low.closedUpper || !high.closedLower || !start.isStable then none
    else if zerosFrom start 1 && isNext start.nextMajor? stop then some (.majorSeries start.major)
    else match start.minor? with
      | some minor =>
        if zerosFrom start 2 && isNext start.nextMinor? stop then
          some (.minorSeries start.major minor)
        else none
      | none => none
  | _, _ => none

/-- The exclusions for the gaps of a union, with `none` for a gap that has no exclusion. -/
def gapExclusions : List VersionRange → List (Option Exclusion)
  | low :: high :: rest => gapExclusion? low high :: gapExclusions (high :: rest)
  | _ => []

/-- The specifier of a union of several ranges. -/
def unionSpecifier (c : Constraint) : Specifier :=
  let gaps := gapExclusions c.ranges
  let around := if c.hull.isAny then [] else [c.hull.render]
  match around ++ gaps.filterMap fun gap => gap.map Exclusion.text with
  | [] => ⟨"*", true⟩
  | clauses => ⟨",".intercalate clauses, gaps.any Option.isNone⟩

/-- The specifier of a constraint. -/
def specifier (c : Constraint) : Specifier :=
  match c.pinned? with
  | some v => ⟨exactSpecifier v, false⟩
  | none =>
    match c.ranges with
    | [] => ⟨"<empty>", false⟩
    | [r] => ⟨r.render, false⟩
    | _ => c.unionSpecifier

/-! ### Interpreter requirements -/

/-- The interpreter series that a requirement may have to name, in ascending order. -/
def interpreterSeries : List (Nat × Nat) :=
  [(2, 7), (3, 0), (3, 1), (3, 2), (3, 3), (3, 4), (3, 5), (3, 6), (3, 7), (3, 8), (3, 9), (3, 10),
   (3, 11), (3, 12), (3, 13)]

/-- The text of an interpreter series. -/
def seriesText (series : Nat × Nat) : String := s!"{series.1}.{series.2}"

/-- The versions of an interpreter series. -/
def seriesRange (series : Nat × Nat) : VersionRange :=
  .halfOpen (.final series.1 [series.2]) (.final series.1 [series.2 + 1])

/-- The constraint allows some version of the interpreter series. -/
def acceptsSeries (c : Constraint) (series : Nat × Nat) : Bool :=
  c.overlaps (ofRange (seriesRange series))

/-- The specifier of an interpreter requirement. A union is told series by series: the lowest one
    that it accepts, and the exclusion of each that it does not. -/
def interpreterSpecifier (c : Constraint) : String :=
  if c.ranges.length < 2 then c.specifier.text
  else match interpreterSeries.find? c.acceptsSeries with
    | none => c.hull.render
    | some lowest =>
      let refused := interpreterSeries.filter fun series => !c.acceptsSeries series
      ", ".intercalate <|
        (">=" ++ seriesText lowest) :: refused.map fun series => s!"!={seriesText series}.*"

end Constraint

end ManifestMigration
