import ManifestMigration.Constraint.Basic
import ManifestMigration.Version.Successor

/-! The single constraints that a version constraint is made of, and what each of them allows.

    A clause whose range would have to end beyond the largest segment allows nothing that could be
    written down, and is an error. -/

namespace ManifestMigration

/-- How a version is compared with the one that a clause names. -/
inductive Comparison where
  | less | atMost | greater | atLeast | equal | different
  deriving DecidableEq, Repr

/-- A single constraint. -/
inductive Clause where
  /-- Any version: `*`. -/
  | anything
  /-- A compatible release: `~=1.2`. -/
  | compatible (v : Version)
  /-- The same minor series: `~1.2`. -/
  | tilde (v : Version)
  /-- Up to the next breaking release: `^1.2`. -/
  | caret (v : Version)
  /-- The series of one or two segments, `1.*` or `1.2.*`, or everything outside it. -/
  | series (major : Nat) (minor? : Option Nat) (excluded : Bool)
  /-- A comparison with one version: `>=1.2`. -/
  | compare (op : Comparison) (v : Version)
  deriving DecidableEq, Repr

/-- Why a text is no version constraint. -/
inductive Constraint.Error where
  | blank
  | invalidVersion (text : String)
  | outOfRange (v : Version)
  | invalidWildcard
  | unrecognized (text : String)
  | matchesNothing
  deriving DecidableEq, Repr

/-- The error as a message. -/
def Constraint.Error.message : Constraint.Error → String
  | .blank => "empty constraint"
  | .invalidVersion text => s!"invalid version '{text}'"
  | .outOfRange v => s!"version '{v.text}' is out of range"
  | .invalidWildcard => "invalid wildcard"
  | .unrecognized text => s!"unrecognized constraint '{text}'"
  | .matchesNothing => "constraint matches no version"

namespace Clause

/-- The versions from `low` up to the end of its series, if that end exists. -/
def upTo (low : Version) (high? : Option Version) : Except Constraint.Error Constraint :=
  match high? with
  | some high => .ok (.ofRange (.halfOpen low high))
  | none => .error (.outOfRange low)

/-- The versions that a comparison allows. -/
def compared (v : Version) : Comparison → Constraint
  | .less => .ofRange (.below v false)
  | .atMost => .ofRange (.below v true)
  | .greater => .ofRange (.above v false)
  | .atLeast => .ofRange (.above v true)
  | .equal => .ofRange (.exact v)
  | .different => (Constraint.ofRange (.exact v)).complement

/-- The versions of the series of one or two segments. -/
def seriesConstraint (major : Nat) (minor? : Option Nat) : Except Constraint.Error Constraint :=
  match minor? with
  | some minor =>
    let low := Version.final major [minor, 0]
    upTo low low.nextMinor?
  | none =>
    if major = 0 then .ok (.ofRange (.below (.final 1 [0, 0]) false))
    else
      let low := Version.final major [0, 0]
      upTo low low.nextMajor?

/-- The versions that a clause allows. -/
def constraint : Clause → Except Constraint.Error Constraint
  | .anything => .ok .any
  | .compatible v =>
    upTo v (if v.precision ≤ 2 then v.stable.nextMajor? else v.stable.nextMinor?)
  | .tilde v => upTo v (if v.precision = 1 then v.stable.nextMajor? else v.stable.nextMinor?)
  | .caret v => upTo v v.nextBreaking?
  | .series major minor? excluded => do
    let inside ← seriesConstraint major minor?
    return if excluded then inside.complement else inside
  | .compare op v => .ok (compared v op)

end Clause

end ManifestMigration
