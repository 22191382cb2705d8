import ManifestMigration.Version.Range

/-! Version constraints: unions of ranges, kept sorted and disjoint.

    No range at all allows nothing, a single unbounded range allows everything. Every operation
    answers in this normal form, so that a constraint is known by its ranges. -/

namespace ManifestMigration

/-- A set of versions, as ranges in ascending order with gaps between them. -/
structure Constraint where
  ranges : List VersionRange
  deriving DecidableEq, Repr

namespace Constraint

/-- Every version. -/
def any : Constraint := ⟨[.any]⟩

/-- No version. -/
def empty : Constraint := ⟨[]⟩

/-- The range, stretched to the upper bound of the second one when that is larger. -/
def stretch (r s : VersionRange) : VersionRange :=
  if s.compareUpper r == .gt then { r with upper := s.upper, closedUpper := s.closedUpper } else r

/-- Joins a range with those that touch it, out of ranges in the order of their lower bounds. -/
def joinFrom (r : VersionRange) : List VersionRange → List VersionRange
  | [] => [r]
  | s :: rest => if r.touches s then joinFrom (stretch r s) rest else r :: joinFrom s rest

/-- Joins the ranges that touch, out of ranges in the order of their lower bounds. -/
def join : List VersionRange → List VersionRange
  | [] => []
  | r :: rest => joinFrom r rest

/-- Puts a range in front of the first one whose lower bound is not smaller. -/
def insertByLower (r : VersionRange) : List VersionRange → List VersionRange
  | [] => [r]
  | s :: rest => if r.compareLower s != .gt then r :: s :: rest else s :: insertByLower r rest

/-- The ranges in the order of their lower bounds; those with equal ones keep their order. -/
def sortByLower : List VersionRange → List VersionRange
  | [] => []
  | r :: rest => insertByLower r (sortByLower rest)

/-- The union of arbitrary ranges. -/
def ofRanges (ranges : List VersionRange) : Constraint :=
  ⟨join (sortByLower (ranges.filter fun r => !r.isEmpty))⟩

/-- The one range as a constraint. -/
def ofRange (r : VersionRange) : Constraint := ofRanges [r]

/-- Allows every version. -/
def isAny (c : Constraint) : Bool :=
  match c.ranges with
  | [r] => r.isAny
  | _ => false

/-- Allows no version. -/
def isEmpty (c : Constraint) : Bool := c.ranges.isEmpty

/-- The version that the constraint pins, when it is a single one. -/
def pinned? (c : Constraint) : Option Version :=
  match c.ranges with
  | [r] => r.pinned?
  | _ => none

/-- The constraints have the same ranges. -/
def same (c d : Constraint) : Bool :=
  c.ranges.length == d.ranges.length && (c.ranges.zip d.ranges).all fun (r, s) => r.same s

/-- The versions that both allow. -/
def inter (c d : Constraint) : Constraint :=
  ofRanges (c.ranges.flatMap fun r => d.ranges.filterMap r.inter?)

/-- The versions that either allows. -/
def union (c d : Constraint) : Constraint := ofRanges (c.ranges ++ d.ranges)

/-- Some version is allowed by both. -/
def overlaps (c d : Constraint) : Bool := !(c.inter d).isEmpty

/-- Where a gap starts: after a version, and whether the gap contains that version. Before the
    first range there is no such version. -/
abbrev GapStart := Option (Version × Bool)

/-- The range from the start of a gap up to an end that it may contain. -/
def gapTo (start : GapStart) (high : Option Version) (closed : Bool) : VersionRange :=
  ⟨start.map (·.1), high, (start.map (·.2)).getD false, closed⟩

/-- The gap before a range; there is none before a range without a lower bound. -/
def gapBefore (start : GapStart) (r : VersionRange) : List VersionRange :=
  match r.lower with
  | some low => [gapTo start (some low) (!r.closedLower)]
  | none => []

/-- The gaps between ascending ranges, from `start` on. -/
def gapsFrom (start : GapStart) : List VersionRange → List VersionRange
  | [] => [gapTo start none false]
  | r :: rest =>
    match r.upper with
    | some high => gapBefore start r ++ gapsFrom (some (high, !r.closedUpper)) rest
    | none => gapBefore start r

/-- The versions that the constraint does not allow. -/
def complement (c : Constraint) : Constraint := ofRanges (gapsFrom none c.ranges)

/-- The smallest range around the constraint; every version when the constraint is empty. -/
def hull (c : Constraint) : VersionRange :=
  match c.ranges.head?, c.ranges.getLast? with
  | some first, some last => ⟨first.lower, last.upper, first.closedLower, last.closedUpper⟩
  | _, _ => .any

/-- The ranges, separated by `||`. -/
def render (c : Constraint) : String :=
  if c.isEmpty then "<empty>" else " || ".intercalate (c.ranges.map VersionRange.render)

end Constraint

end ManifestMigration
