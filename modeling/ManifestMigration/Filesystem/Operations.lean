import ManifestMigration.Filesystem.Resolution

/-! The operations on a tree of files: reading, writing, making, removing and renaming.

    An operation that is refused leaves the tree as it is, with two exceptions: making a directory
    with its parents, and removing a directory with its contents, can stop on the way. -/

namespace ManifestMigration

/-- The path without the slashes at its end, which ask for a directory. The root keeps one. -/
def Path.closed (p : Path) : Path :=
  match p.text.toList.reverse.dropWhile (· == '/') with
  | [] => if p.text.isEmpty then p else ⟨"/"⟩
  | kept => ⟨String.ofList kept.reverse⟩

/-- The paths of the directories above, from the path itself on. -/
def Path.ancestors (p : Path) : List Path := go p.text.length p
where
  /-- The path and at most so many directories above. -/
  go : Nat → Path → List Path
    | 0, p => [p]
    | n + 1, p =>
      match p.parent? with
      | some above => p :: go n above
      | none => [p]

namespace Tree

/-- Where a path leads, without the slashes at its end and without following a link there. -/
def locateClosed (t : Tree) (p : Path) : Found := do
  match p.flaw? with
  | some e => throw e
  | none => t.locate false p.closed

/-! ### Reading -/

/-- The bytes of a file. -/
def read (t : Tree) (p : Path) : Except SystemError ByteArray := do
  match ← t.locate true p with
  | (_, some (.file content)) => return content
  | (_, some _) => throw .isDirectory
  | (_, none) => throw .missing

/-- The text of a file. -/
def readText (t : Tree) (p : Path) : Except SystemError String := do
  match String.fromUTF8? (← t.read p) with
  | some text => return text
  | none => throw .notText

/-- The entries of a directory, by name. -/
def list (t : Tree) (p : Path) : Except SystemError (List (String × Entry)) := do
  match ← t.locate true p with
  | (l, some .directory) => return t.listing l
  | (_, some _) => throw .notDirectory
  | (_, none) => throw .missing

/-! ### Files and links -/

/-- The location that a file can be written to. A path with a slash at its end asks for a
    directory, so nothing can be written there. -/
def writable (t : Tree) (p : Path) : Except SystemError Location := do
  if p.endsOpen then
    let _ ← t.locateClosed p
    throw .isDirectory
  match ← t.locate true p with
  | (_, some .directory) => throw .isDirectory
  | (l, _) => return l

/-- Writes a file: a new one, or over the one that the path leads to. -/
def write (t : Tree) (p : Path) (content : ByteArray) : Except SystemError Tree := do
  return t.put (← t.writable p) (.file content)

/-- Copies a file. A file that is copied to itself is emptied before it is read. -/
def copyFile (t : Tree) (source target : Path) : Except SystemError Tree := do
  let content ← t.read source
  let (there, _) ← t.locate true source
  let l ← t.writable target
  return t.put l (.file (if l == there then ByteArray.empty else content))

/-- Makes a link. -/
def makeLink (t : Tree) (target : String) (p : Path) : Except SystemError Tree := do
  match Path.flaw? ⟨target⟩ with
  | some e => throw e
  | none =>
    match ← t.locateClosed p with
    | (_, some _) => throw .occupied
    | (l, none) => if p.endsOpen then throw .missing else return t.put l (.link target)

/-- Removes a file or a link. -/
def removeFile (t : Tree) (p : Path) : Except SystemError Tree := do
  match ← t.locateClosed p with
  | (_, none) => throw .missing
  | (_, some .directory) => throw .isDirectory
  | (l, some _) => if p.endsOpen then throw .notDirectory else return t.erase l

/-! ### Directories -/

/-- Makes a directory. -/
def makeDirectory (t : Tree) (p : Path) : Except SystemError Tree := do
  match ← t.locateClosed p with
  | (_, some _) => throw .occupied
  | (l, none) => return t.put l .directory

/-- Makes the first of some nested directories, given the ones above it. -/
def makeNested (t : Tree) : List Path → Except SystemError Unit × Tree
  | [] => (.error .missing, t)
  | p :: above =>
    match t.makeDirectory p with
    | .ok u => (.ok (), u)
    | .error .missing =>
      match t.makeNested above with
      | (.error e, u) => (.error e, u)
      | (.ok (), u) =>
        match u.makeDirectory p with
        | .ok v => (.ok (), v)
        | .error e => if u.isDirectory p then (.ok (), u) else (.error e, u)
    | .error e => if t.isDirectory p then (.ok (), t) else (.error e, t)

/-- Makes a directory, with the directories above it, unless it is there. -/
def makeDirectories (t : Tree) (p : Path) : Except SystemError Unit × Tree :=
  t.makeNested p.ancestors

/-- The directory that the last name of a path stands in. -/
def above (t : Tree) (p : Path) : Found :=
  t.locate true (.ofPieces (p.closed.pieces.dropLast ++ [""]))

/-- Removes an empty directory. -/
def removeDirectory (t : Tree) (p : Path) : Except SystemError Tree := do
  match p.closed.pieces.getLast? with
  | some "." => do
    let _ ← t.above p
    throw .invalidArgument
  | some ".." => do
    let _ ← t.above p
    throw .notEmpty
  | _ =>
    match ← t.locateClosed p with
    | (_, none) => throw .missing
    | (l, some .directory) => if (t.below l).isEmpty then return t.erase l else throw .notEmpty
    | (_, some _) => throw .notDirectory

/-- Removes a directory with its contents, or a link. A directory that cannot be found any more
    after its contents are gone, because its path led through them, stays. -/
def removeAll (t : Tree) (p : Path) : Except SystemError Unit × Tree :=
  match t.locate false p with
  | .error e => (.error e, t)
  | .ok (_, none) => (.error .missing, t)
  | .ok (l, some (.link _)) => (.ok (), t.erase l)
  | .ok (_, some (.file _)) => (.error .notDirectory, t)
  | .ok (l, some .directory) =>
    match (t.clear l).removeDirectory p with
    | .ok u => (.ok (), u)
    | .error .missing => (.ok (), t.clear l)
    | .error e => (.error e, t.clear l)

/-! ### Renaming -/

/-- The location that the last name of a path stands for. -/
def namedBy (t : Tree) (p : Path) : Except SystemError (Location × Option Entry) := do
  let found ← t.locateClosed p
  match p.closed.pieces.getLast? with
  | some "" | some "." | some ".." => throw .busy
  | _ => return found

/-- Renames what one path names to what another path names, over a file, a link or an empty
    directory that is there. -/
def rename (t : Tree) (old new : Path) : Except SystemError Tree := do
  let (source, moved) ← t.namedBy old
  let (target, replaced) ← t.namedBy new
  match moved with
  | none => throw .missing
  | some .directory =>
    if source == target then return t
    if source.isPrefixOf target then throw .invalidArgument
    if target.isPrefixOf source then throw .notEmpty
    match replaced with
    | none => return t.move source target
    | some .directory =>
      if (t.below target).isEmpty then return t.move source target else throw .notEmpty
    | some _ => throw .notDirectory
  | some _ =>
    if old.endsOpen || new.endsOpen then throw .notDirectory
    if source == target then return t
    if target.isPrefixOf source then throw .notEmpty
    match replaced with
    | some .directory => throw .isDirectory
    | _ => return t.move source target

end Tree

end ManifestMigration
