import ManifestMigration.Failure
import ManifestMigration.Filesystem.Operations

/-! Copying a tree of files. Links are copied as links.

    Every directory is copied before its contents, so an entry finds the directory that it goes
    into. The first entry that is refused ends the copying; what was copied stays. -/

namespace ManifestMigration

/-- What an action on a file system comes to. Its effects stay even if it fails. -/
abbrev Action (α : Type) := EStateM Failure Tree α

namespace Action

/-- Looks at the tree. -/
def look {α : Type} (f : Tree → α) : Action α := fun t => .ok (f t) t

/-- Looks at the tree, and fails if what is looked for is not there. -/
def attempt {α : Type} (f : Tree → Except Failure α) : Action α := fun t =>
  match f t with
  | .ok a => .ok a t
  | .error e => .error e t

/-- An operation that changes nothing if it is refused. -/
def perform (failure : SystemError → Failure) (f : Tree → Except SystemError Tree) :
    Action Unit := fun t =>
  match f t with
  | .ok u => .ok () u
  | .error e => .error (failure e) t

/-- An operation that can stop on the way. -/
def performPartly (failure : SystemError → Failure) (f : Tree → Except SystemError Unit × Tree) :
    Action Unit := fun t =>
  match f t with
  | (.ok (), u) => .ok () u
  | (.error e, u) => .error (failure e) u

end Action

namespace Tree

/-- The entries below a directory, each directory before its contents. -/
def preorder (t : Tree) (l : Location) : List (Location × Entry) :=
  (t.below l).mergeSort fun a b => a.1.length ≤ b.1.length

end Tree

/-- Copies one entry, and answers how many files and links that are. -/
def copyEntry (source target : Path) : Entry → Action Nat
  | .directory => do
    Action.performPartly (.system target) fun t => t.makeDirectories target
    return 0
  | .link leads => do
    Action.perform (.system target) fun t => t.makeLink leads target
    return 1
  | .file _ => do
    Action.perform (.system target) fun t => t.copyFile source target
    return 1

/-- Copies entries below a directory, and answers how many files and links they are. -/
def copyEntries (source target : Path) : List (Location × Entry) → Action Nat
  | [] => return 0
  | (l, e) :: rest => do
    let copied ← copyEntry (l.foldl Path.child source) (l.foldl Path.child target) e
    let others ← copyEntries source target rest
    return copied + others

/-- The location that a path names and what is there, where a copy starts. A link has to lead
    somewhere. -/
def Tree.origin (t : Tree) (source : Path) : Except SystemError (Location × Entry) := do
  match ← t.locate false source, ← t.locate true source with
  | (l, some e), (_, some _) => return (l, e)
  | _, _ => throw .missing

/-- A path leads to a directory that is inside of a location. -/
def Tree.encloses (t : Tree) (l : Location) (p : Path) : Bool :=
  match t.locate true p with
  | .ok (m, some .directory) => l.isPrefixOf m && m != l
  | _ => false

/-- Copies what a path names, with all that is below it, and answers how many files and links that
    are. The path of the copy asks for a directory, so only a directory can be copied. A copy that is
    inside of what is copied is copied in its turn, over and over, until a path is too long. -/
def copyTree (source target : Path) : Action Nat := do
  match ← Action.look fun t => t.origin source with
  | .error e => throw (.walk source e)
  | .ok (l, e) =>
    let entries ← Action.look fun t => t.preorder l
    let copied ← copyEntry source (target.child "") e
    let others ← copyEntries source target entries
    if ← Action.look fun t => t.encloses l target then throw (.system target .nameTooLong)
    return copied + others

end ManifestMigration
