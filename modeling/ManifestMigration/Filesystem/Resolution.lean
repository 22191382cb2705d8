import ManifestMigration.Filesystem.Path
import ManifestMigration.Filesystem.SystemError
import ManifestMigration.Filesystem.Tree

/-! Finding the location that a path leads to.

    A path is followed name by name from the root. A link on the way is always followed, one at the
    end only on demand, and at most forty in all. -/

namespace ManifestMigration

/-- How many links are followed on one way. -/
def linkLimit : Nat := 40

/-- How many bytes a name can have. -/
def nameLimit : Nat := 255

/-- How many bytes a path can have. -/
def pathLimit : Nat := 4095

/-- Why a path cannot lead anywhere, whatever is in the file system. -/
def Path.flaw? (p : Path) : Option SystemError :=
  if p.text.toList.contains '\x00' then some .nulInName
  else if p.text.isEmpty then some .missing
  else if p.text.utf8ByteSize > pathLimit then some .nameTooLong
  else none

/-- The pieces that are followed: a slash or a dot at the end asks for a directory, so a dot stays
    there. -/
def Path.steps (p : Path) : List String :=
  match p.pieces.getLast? with
  | some last => if Path.isIdle last then p.names ++ ["."] else p.names
  | none => p.names

namespace Tree

/-- Where a path leads: the location, and what is there. A path may lead to a location where nothing
    is, in a directory that is there. -/
abbrev Found := Except SystemError (Location × Option Entry)

/-- Follows steps from a directory. `follow` says what to do at a link: go on from the given
    directory with other steps. `last` says whether a link at the end is followed. -/
def walk (t : Tree) (last : Bool) (follow : Location → List String → Found) (l : Location) :
    List String → Found
  | [] => .ok (l, some .directory)
  | step :: rest =>
    if step == "." then walk t last follow l rest
    else if step == ".." then walk t last follow l.dropLast rest
    else if step.utf8ByteSize > nameLimit then .error .nameTooLong
    else
      let next := l ++ [step]
      match t.get? next with
      | none => if rest.isEmpty then .ok (next, none) else .error .missing
      | some .directory => walk t last follow next rest
      | some (.file content) =>
        if rest.isEmpty then .ok (next, some (.file content)) else .error .notDirectory
      | some (.link target) =>
        if rest.isEmpty && !last then .ok (next, some (.link target))
        else
          let path : Path := ⟨target⟩
          follow (if path.isAbsolute then [] else l) (path.steps ++ rest)

/-- Follows steps over at most so many links. -/
def walkLinks (t : Tree) (last : Bool) : Nat → Location → List String → Found
  | 0 => t.walk last fun _ _ => .error .linkLoop
  | links + 1 => t.walk last (t.walkLinks last links)

/-- Where an absolute path leads. -/
def locate (t : Tree) (last : Bool) (p : Path) : Found :=
  match p.flaw? with
  | some e => .error e
  | none => t.walkLinks last linkLimit [] p.steps

/-- What a path leads to, when something is there. -/
def entry? (t : Tree) (p : Path) : Option Entry :=
  match t.locate true p with
  | .ok (_, found) => found
  | .error _ => none

/-- A path leads to a directory. -/
def isDirectory (t : Tree) (p : Path) : Bool :=
  match t.entry? p with
  | some .directory => true
  | _ => false

/-- A path leads to a file. -/
def isFile (t : Tree) (p : Path) : Bool :=
  match t.entry? p with
  | some (.file _) => true
  | _ => false

/-- A path leads to something. -/
def leadsSomewhere (t : Tree) (p : Path) : Bool := (t.entry? p).isSome

end Tree

end ManifestMigration
