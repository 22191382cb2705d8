import ManifestMigration.CommandLine.Run
import ManifestMigration.Filesystem.Changes

/-! The program: it reads the project and its backups into a tree, runs the command on that, and
    makes the changes that come out of it.

    Links can be neither read nor made here, so a project with links is refused. -/

namespace ManifestMigration.Program

/-- The location of a path from the root on, through directories alone. -/
def locationOf (p : Path) : Location :=
  p.names.foldl (fun l name => if name == ".." then l.dropLast else l ++ [name]) []

/-- The path of a location. -/
def textOf (l : Location) : String := "/" ++ "/".intercalate l

/-- What is said about a link. -/
def linkError (l : Location) : IO.Error :=
  IO.userError (textOf l ++ " is a symbolic link, which is not supported")

/-- Reads what is at a location, with all that is below it. -/
partial def readEntries (l : Location) : IO (List (Location × Entry)) := do
  let path := System.mkFilePath [textOf l]
  match (← path.symlinkMetadata).type with
  | .dir =>
    let inside ← (← path.readDir).toList.mapM fun e => readEntries (l ++ [e.fileName])
    return (l, .directory) :: inside.flatten
  | .symlink => throw (linkError l)
  | _ => return [(l, .file (← IO.FS.readBinFile path))]

/-- The directories on the way to a path. -/
def readWay (p : Path) : IO (List (Location × Entry)) := do
  let ways := ((List.range (p.names.length + 1)).map fun n =>
    locationOf ⟨"/".intercalate (p.names.take n)⟩).eraseDups
  let there ← ways.filterM fun l => (System.mkFilePath [textOf l]).isDir
  return (there.filter (!·.isEmpty)).map fun l => (l, .directory)

/-- The project, its backups, and the directories on the way to them. -/
def readTree (project : Path) : IO Tree := do
  match project.name?, project.parent? with
  | some name, some parent =>
    let way ← readWay parent
    let beside := System.mkFilePath [textOf (locationOf parent)]
    let names ← if ← beside.isDir then
        pure ((← beside.readDir).toList.map fun e => e.fileName)
      else pure []
    let own := names.filter fun n => n == name || (Slot.parse? n).map Slot.project == some name
    let entries ← own.mapM fun n => readEntries (locationOf parent ++ [n])
    return ⟨way ++ entries.flatten⟩
  | _, _ => return ⟨← readWay project⟩

/-- Makes one change. -/
def apply : Change → IO Unit
  | .removeFile l => IO.FS.removeFile (textOf l)
  | .removeDirectory l => IO.FS.removeDir (textOf l)
  | .makeDirectory l => IO.FS.createDir (textOf l)
  | .writeFile l content => IO.FS.writeBinFile (textOf l) content
  | .makeLink l _ => throw (linkError l)

/-- The path that the arguments are about. -/
def pathOf? (arguments : List String) : Option Path :=
  match CommandLine.Invocation.parse arguments with
  | .ok ⟨_, _, some (.migrate o _)⟩ => some o.path
  | .ok ⟨_, _, some (.restore o)⟩ => some o.path
  | _ => none

/-- Runs the program, and answers its exit code. -/
def run (arguments : List String) : IO UInt32 := do
  let directory : Path := ⟨(← IO.currentDir).toString⟩
  let tree ← match pathOf? arguments with
    | some p => readTree (p.absolute directory)
    | none => pure .empty
  let line ← match CommandLine.question? directory arguments tree with
    | some question => do
      (← IO.getStderr).putStr question
      (← IO.getStderr).flush
      (← IO.getStdin).getLine
    | none => pure ""
  let setting : CommandLine.Setting := ⟨directory, line, ← (← IO.getStdout).isTty⟩
  let outcome := CommandLine.run setting arguments tree
  for message in outcome.log do
    (← IO.getStderr).putStrLn ("WARN " ++ message)
  for change in tree.changes outcome.tree do
    apply change
  (← IO.getStdout).putStr outcome.output
  (← IO.getStderr).putStr outcome.errors
  return UInt32.ofNat outcome.code

end ManifestMigration.Program

/-- The program. -/
def main (arguments : List String) : IO UInt32 := ManifestMigration.Program.run arguments
