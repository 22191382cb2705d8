import ManifestMigration.Filesystem.Tree

/-! The changes that turn one tree of files into another. -/

namespace ManifestMigration

/-- One change. A directory is empty when it is removed. -/
inductive Change where
  | removeFile (l : Location)
  | removeDirectory (l : Location)
  | makeDirectory (l : Location)
  | writeFile (l : Location) (content : ByteArray)
  | makeLink (l : Location) (target : String)
  deriving DecidableEq

namespace Change

/-- Removes an entry. -/
def removing (l : Location) : Entry → Change
  | .directory => removeDirectory l
  | _ => removeFile l

/-- Makes an entry. -/
def making (l : Location) : Entry → Change
  | .directory => makeDirectory l
  | .file content => writeFile l content
  | .link target => makeLink l target

end Change

/-- Two entries of one kind, so that one can be written over the other. -/
def sameKind : Entry → Entry → Bool
  | .file _, .file _ => true
  | .directory, .directory => true
  | _, _ => false

namespace Tree

/-- Each directory before its contents. -/
def outerFirst (entries : List (Location × Entry)) : List (Location × Entry) :=
  entries.mergeSort fun a b => a.1.length ≤ b.1.length

/-- A location at which, or above which, the two trees have entries of different kinds. -/
def differs (old new : Tree) (l : Location) : Bool :=
  (List.range (l.length + 1)).any fun n =>
    match old.get? (l.take n), new.get? (l.take n) with
    | some e, some f => !sameKind e f
    | _, _ => false

/-- The changes from one tree to another: what is in the way is removed, then what is new is made,
    then files are written over, and what is gone is removed last. -/
def changes (old new : Tree) : List Change :=
  let (blocking, rest) := (outerFirst old.entries).reverse.partition fun e => old.differs new e.1
  let gone := rest.filter fun e => (new.get? e.1).isNone
  let (kept, made) := (outerFirst new.entries).partition fun e =>
    (old.get? e.1).isSome && !old.differs new e.1
  let written := kept.filter fun e => old.get? e.1 != some e.2
  blocking.map (fun (l, e) => Change.removing l e) ++ made.map (fun (l, e) => Change.making l e) ++
    written.map (fun (l, e) => Change.making l e) ++ gone.map fun (l, e) => Change.removing l e

end Tree

end ManifestMigration
