import ManifestMigration.Migration

/-! Putting a backup of a project back in its place. -/

namespace ManifestMigration

/-- What a restoration is asked to do. Without a number the latest backup is meant. -/
structure RestorationOptions where
  path : Path
  number : Option Nat
  assumeYes : Bool
  deriving DecidableEq, Repr

/-- What became of a restoration. -/
inductive RestorationOutcome where
  | restored (backup : Path)
  | aborted (backup : Path)
  deriving DecidableEq, Repr

namespace Restoration

/-- The project and the backup that are meant. -/
def choose (workingDirectory : Path) (o : RestorationOptions) : Action (Path × Path) := do
  let root ← Migration.absolute workingDirectory o.path
  let index ← match o.number with
    | some index => pure index
    | none =>
      match ← Backup.latest root with
      | some index => pure index
      | none => throw (.noBackup root)
  let backup ← Backup.pathOf root index
  if !(← Action.look fun t => t.isDirectory backup) then throw (.backupNotFound backup)
  return (root, backup)

/-- Whether a backup is to be restored. `confirm` is asked unless that is taken for granted, and may
    fail to answer. -/
def ask (o : RestorationOptions) (confirm : Path → Except Failure Bool) (backup : Path) :
    Action Bool :=
  if o.assumeYes then return true else Action.attempt fun _ => confirm backup

/-- Restores a project, if that is confirmed. -/
def restoreAsking (workingDirectory : Path) (confirm : Path → Except Failure Bool)
    (o : RestorationOptions) : Action RestorationOutcome := do
  let (root, backup) ← choose workingDirectory o
  if !(← ask o confirm backup) then return .aborted backup
  Backup.restore root backup
  return .restored backup

/-- Restores a project, where there always is an answer. -/
def restore (workingDirectory : Path) (confirm : Path → Bool) (o : RestorationOptions) :
    Action RestorationOutcome :=
  restoreAsking workingDirectory (fun backup => .ok (confirm backup)) o

end Restoration

end ManifestMigration
