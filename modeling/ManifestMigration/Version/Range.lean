import ManifestMigration.Version.Order

/-! Ranges of versions: a lower and an upper bound, each possibly absent and each inclusive or not.

    Whether an absent bound is inclusive has no meaning, but a range remembers it, and two ranges
    are the same only when they agree on it too. -/

namespace ManifestMigration

/-- A contiguous range of versions. -/
structure VersionRange where
  lower : Option Version
  upper : Option Version
  closedLower : Bool
  closedUpper : Bool
  deriving DecidableEq, Repr

namespace VersionRange

/-- Every version. -/
def any : VersionRange := ⟨none, none, false, false⟩

/-- The versions from `low` up to but without `high`. -/
def halfOpen (low high : Version) : VersionRange := ⟨some low, some high, true, false⟩

/-- One version. -/
def exact (v : Version) : VersionRange := ⟨some v, some v, true, true⟩

/-- The versions above `low`. -/
def above (low : Version) (closed : Bool) : VersionRange := ⟨some low, none, closed, false⟩

/-- The versions below `high`. -/
def below (high : Version) (closed : Bool) : VersionRange := ⟨none, some high, false, closed⟩

/-- Has no bound at all. -/
def isAny (r : VersionRange) : Bool := r.lower.isNone && r.upper.isNone

/-- The version that the range pins, when both of its bounds include the same one. -/
def pinned? (r : VersionRange) : Option Version :=
  match r.lower, r.upper with
  | some low, some high =>
    if r.closedLower && r.closedUpper && low.same high then some low else none
  | _, _ => none

/-- No version lies in the range. -/
def isEmpty (r : VersionRange) : Bool :=
  match r.lower, r.upper with
  | some low, some high =>
    match low.compare high with
    | .gt => true
    | .eq => !(r.closedLower && r.closedUpper)
    | .lt => false
  | _, _ => false

/-- The two bounds are absent, or present and equal as versions. -/
def sameBound : Option Version → Option Version → Bool
  | none, none => true
  | some v, some w => v.same w
  | _, _ => false

/-- The ranges have equal bounds, inclusive alike. -/
def same (r s : VersionRange) : Bool :=
  sameBound r.lower s.lower && sameBound r.upper s.upper &&
    r.closedLower == s.closedLower && r.closedUpper == s.closedUpper

/-! ### Intersection -/

/-- The higher of two lower bounds, and whether it is inclusive; of equal ones the first, inclusive
    when both are. -/
def higherLower (r s : VersionRange) : Option Version × Bool :=
  match r.lower, s.lower with
  | none, none => (none, false)
  | some v, none => (some v, r.closedLower)
  | none, some w => (some w, s.closedLower)
  | some v, some w =>
    match v.compare w with
    | .gt => (some v, r.closedLower)
    | .lt => (some w, s.closedLower)
    | .eq => (some v, r.closedLower && s.closedLower)

/-- The lower of two upper bounds, and whether it is inclusive; of equal ones the first, inclusive
    when both are. -/
def lowerUpper (r s : VersionRange) : Option Version × Bool :=
  match r.upper, s.upper with
  | none, none => (none, false)
  | some v, none => (some v, r.closedUpper)
  | none, some w => (some w, s.closedUpper)
  | some v, some w =>
    match v.compare w with
    | .lt => (some v, r.closedUpper)
    | .gt => (some w, s.closedUpper)
    | .eq => (some v, r.closedUpper && s.closedUpper)

/-- The versions in both ranges, when there may be any. -/
def inter? (r s : VersionRange) : Option VersionRange :=
  let (lower, closedLower) := higherLower r s
  let (upper, closedUpper) := lowerUpper r s
  let both : VersionRange := ⟨lower, upper, closedLower, closedUpper⟩
  if both.isEmpty then none else some both

/-! ### Neighbours -/

/-- The second range starts inside the first or right at its end, if it does not start below it. -/
def touches (r s : VersionRange) : Bool :=
  match r.upper, s.lower with
  | some high, some low =>
    match high.compare low with
    | .gt => true
    | .eq => r.closedUpper || s.closedLower
    | .lt => false
  | _, _ => true

/-- Compares two flags; `false` is the smaller. -/
def compareFlags : Bool → Bool → Ordering
  | false, true => .lt
  | true, false => .gt
  | _, _ => .eq

/-- The order of lower bounds: an absent one is the smallest, an inclusive one comes before an
    exclusive one. -/
def compareLower (r s : VersionRange) : Ordering :=
  match r.lower, s.lower with
  | none, none => .eq
  | none, some _ => .lt
  | some _, none => .gt
  | some v, some w => (v.compare w).then (compareFlags s.closedLower r.closedLower)

/-- The order of upper bounds: an absent one is the largest, an inclusive one comes after an
    exclusive one. -/
def compareUpper (r s : VersionRange) : Ordering :=
  match r.upper, s.upper with
  | none, none => .eq
  | none, some _ => .gt
  | some _, none => .lt
  | some v, some w => (v.compare w).then (compareFlags r.closedUpper s.closedUpper)

/-! ### Text -/

/-- The lower bound as a clause. -/
def lowerClause (r : VersionRange) : List String :=
  match r.lower with
  | none => []
  | some v => [(if r.closedLower then ">=" else ">") ++ v.text]

/-- The upper bound as a clause. -/
def upperClause (r : VersionRange) : List String :=
  match r.upper with
  | none => []
  | some v => [(if r.closedUpper then "<=" else "<") ++ v.text]

/-- The range as its clauses, such as `>=1.0,<2.0`; a star when there is none. -/
def render (r : VersionRange) : String :=
  if r.isAny then "*" else ",".intercalate (r.lowerClause ++ r.upperClause)

end VersionRange

end ManifestMigration
