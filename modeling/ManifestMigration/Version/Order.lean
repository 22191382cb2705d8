import ManifestMigration.Version.Basic

/-! The order of versions: releases segment by segment, a missing segment counting as zero, and
    between equal releases the marks.

    A development release without other marks comes first, then pre-releases, the final release,
    and post releases. Versions that compare equal need not be written alike. -/

namespace ManifestMigration

/-- The place of the phase among the phases. -/
def Phase.rank : Phase → Nat
  | .alpha => 0
  | .beta => 1
  | .candidate => 2

namespace Version

/-- Compares a release that has ended with the remaining segments of another. -/
def compareEnded : List Nat → Ordering
  | [] => .eq
  | y :: ys => (Ord.compare 0 y).then (compareEnded ys)

/-- Compares two releases segment by segment; the shorter one is filled up with zeros. -/
def compareReleases : List Nat → List Nat → Ordering
  | [], ys => compareEnded ys
  | x :: xs, ys => (Ord.compare x (ys.headD 0)).then (compareReleases xs ys.tail)

/-- The stage of a release that the marks speak of. -/
def stage (v : Version) : Nat :=
  match v.pre, v.dev, v.post with
  | none, some _, none => 0
  | some _, _, _ => 1
  | none, _, none => 2
  | none, _, some _ => 3

/-- The rank of a pre-release: the phase in the upper half of a word, combined with the number. -/
def preRank (v : Version) : Nat :=
  match v.pre with
  | none => 0
  | some (phase, n) => (phase.rank <<< 32) ||| n

/-- The rank of a development release: its number counted from one, and the largest word when the
    version is no development release. Counting starts again at zero after the largest word. -/
def devRank (v : Version) : Nat :=
  match v.dev with
  | none => Text.wordLimit - 1
  | some n => Text.nextWord n

/-- Compares the marks of two versions with equal releases. -/
def compareMarks (v w : Version) : Ordering :=
  (Ord.compare v.stage w.stage).then <| (Ord.compare v.preRank w.preRank).then <|
    (Ord.compare (v.post.getD 0) (w.post.getD 0)).then (Ord.compare v.devRank w.devRank)

/-- The order of versions. -/
def compare (v w : Version) : Ordering :=
  (compareReleases v.release w.release).then (compareMarks v w)

/-- The two versions compare equal. -/
def same (v w : Version) : Bool := v.compare w == .eq

/-- The first version comes strictly before the second. -/
def before (v w : Version) : Bool := v.compare w == .lt

/-- The versions from the smallest to the largest; equal ones keep their order. -/
def sort (vs : List Version) : List Version := vs.mergeSort fun v w => v.compare w != .gt

end Version

end ManifestMigration
