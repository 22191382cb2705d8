import ManifestMigration.Text.Digit

/-! Version numbers: a release such as `1.2.3`, possibly marked as a pre-release (`1.0a1`), a post
    release (`1.0.post1`) or a development release (`1.0.dev0`).

    A version keeps the text it was written as, so `03.010` and `3.10` are told apart on paper
    although they compare equal. -/

namespace ManifestMigration

/-- The phase of a pre-release. -/
inductive Phase where
  | alpha | beta | candidate
  deriving DecidableEq, Repr

/-- A version number. Its release is `major` followed by the segments of `tail`, so it always has
    at least one. -/
structure Version where
  major : Nat
  tail : List Nat
  pre : Option (Phase × Nat)
  post : Option Nat
  dev : Option Nat
  text : String
  deriving DecidableEq, Repr

namespace Version

/-- The segments of the release. -/
def release (v : Version) : List Nat := v.major :: v.tail

/-- The number of segments in the release. -/
def precision (v : Version) : Nat := v.release.length

/-- The second segment of the release. -/
def minor? (v : Version) : Option Nat := v.tail[0]?

/-- The third segment of the release. -/
def patch? (v : Version) : Option Nat := v.tail[1]?

/-- A release without marks, written in its shortest form. -/
def final (major : Nat) (tail : List Nat) : Version :=
  ⟨major, tail, none, none, none, ".".intercalate ((major :: tail).map toString)⟩

/-- The final release with the given segments; no segments stand for the release `0`. -/
def ofSegments : List Nat → Version
  | [] => final 0 []
  | major :: tail => final major tail

/-- Neither a pre-release nor a development release; a post release is stable. -/
def isStable (v : Version) : Bool := v.pre.isNone && v.dev.isNone

/-- The final release that an unstable version leads up to. -/
def stable (v : Version) : Version := if v.isStable then v else final v.major v.tail

end Version

end ManifestMigration
