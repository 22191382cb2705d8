import ManifestMigration.Backup.Name
import ManifestMigration.Filesystem.Copy

/-! Backups of a project: copies of its directory, each in a slot beside it.

    The slots of a project are numbered, and a new one comes after all that are there, so a backup
    is not overwritten as long as there is a next number. -/

namespace ManifestMigration.Backup

/-- The path of a slot, in a run that fails if there can be none. -/
def pathOf (project : Path) (index : Nat) : Action Path :=
  match project.backup? index with
  | some path => return path
  | none => throw (.directoryNotFound project)

/-- The largest index of the slots of a project among some names. -/
def latestAmong (project : String) (names : List String) : Option Nat :=
  let slots := names.filterMap Slot.parse?
  ((slots.filter fun s => s.project == project).map Slot.index).max?

/-- The largest index of the slots of a project. -/
def latest (project : Path) : Action (Option Nat) := do
  match project.name? with
  | none => throw (.directoryNotFound project)
  | some name =>
    let parent := project.parent?.getD ⟨"."⟩
    match ← Action.look fun t => t.list parent with
    | .ok entries => return latestAmong name (entries.map (·.1))
    | .error e => throw (.system parent e)

/-- The first slot after all that are there. After the largest number of a word it is the first of
    all, even if that is taken. -/
def next (project : Path) : Action Path := do
  match ← latest project with
  | some index => pathOf project (Text.nextWord index)
  | none => pathOf project 0

/-- Copies a project to its next slot, and answers the path of that. -/
def create (project : Path) : Action Path := do
  if !(← Action.look fun t => t.isDirectory project) then throw (.directoryNotFound project)
  let backup ← next project
  let _ ← copyTree project backup
  return backup

/-- Puts a copy of a backup in the place of a project. The backup stays. -/
def restore (project backup : Path) : Action Unit := do
  if !(← Action.look fun t => t.isDirectory backup) then throw (.directoryNotFound backup)
  if ← Action.look fun t => t.leadsSomewhere project then
    Action.performPartly (.system project) fun t => t.removeAll project
  let _ ← copyTree backup project

end ManifestMigration.Backup
